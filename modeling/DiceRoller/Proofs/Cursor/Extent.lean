import DiceRoller.Proofs.Cursor.Reads

/-!
# How far reads go

What a read takes off a text, character by character: the blanks in front of
it, the digits or the mark that it finds, and nothing behind these.  A read
can therefore be repeated on what it has taken, whatever part of the rest
stands behind it.
-/

namespace DiceRoller

open Text (isBlank trimStart)
open Token (Apart Blanks Digits Visible decimal)

namespace Token

/-- A text without a blank in front. -/
def Trimmed (text : List Char) : Prop :=
  ∀ character ∈ text.head?, isBlank character = false

/-- A text without a sign in front. -/
def SignFree (text : List Char) : Prop :=
  ∀ character ∈ text.head?, character ≠ '+' ∧ character ≠ '-'

/-- A sign and the number that it multiplies by. -/
inductive Sign : Char → Int → Prop where
  | plus : Sign '+' 1
  | minus : Sign '-' (-1)

theorem sign_or_signFree (text : List Char) :
    (∃ mark factor later, Sign mark factor ∧ text = mark :: later) ∨
      SignFree text := by
  cases text with
  | nil => exact .inr (by simp [SignFree])
  | cons first later =>
      by_cases plus : first = '+'
      · exact .inl ⟨first, 1, later, plus ▸ .plus, rfl⟩
      · by_cases minus : first = '-'
        · exact .inl ⟨first, -1, later, minus ▸ .minus, rfl⟩
        · exact .inr (by simp [SignFree, plus, minus])

theorem forall_head_of_prefix {holds : Char → Prop} {part text : List Char}
    (begins : part <+: text)
    (first : ∀ character ∈ text.head?, holds character) :
    ∀ character ∈ part.head?, holds character := by
  obtain ⟨later, rfl⟩ := begins
  intro character member
  cases part with
  | nil => cases member
  | cons head part => exact first character member

theorem forall_head_of_blanks {holds : Char → Prop}
    (onBlank : ∀ character, isBlank character = true → holds character)
    {blanks text : List Char} (blank : Blanks blanks)
    (first : ∀ character ∈ text.head?, holds character) :
    ∀ character ∈ (blanks ++ text).head?, holds character := by
  intro character member
  cases blanks with
  | nil => exact first character member
  | cons head blanks =>
      cases member
      exact onBlank _ (blank _ List.mem_cons_self)

theorem apart_of_blanks {blanks text : List Char} (blank : Blanks blanks)
    (apart : Apart text) : Apart (blanks ++ text) :=
  forall_head_of_blanks (fun _ => isDigit_of_isBlank) blank apart

theorem signFree_of_blanks {blanks text : List Char} (blank : Blanks blanks)
    (free : SignFree text) : SignFree (blanks ++ text) := by
  have onBlank (character : Char) (blank : isBlank character = true) :
      character ≠ '+' ∧ character ≠ '-' := by
    constructor
    · rintro rfl
      cases blank
    · rintro rfl
      cases blank
  exact forall_head_of_blanks onBlank blank free

theorem trimStart_eq_iff {text rest : List Char} :
    trimStart isBlank text = rest ↔
      ∃ blanks, Blanks blanks ∧ Trimmed rest ∧ text = blanks ++ rest := by
  constructor
  · rintro rfl
    refine ⟨text.takeWhile isBlank, ?_, ?_, ?_⟩
    · exact fun character member =>
        List.all_eq_true.mp List.all_takeWhile character member
    · intro character first
      have stopped := List.head?_dropWhile_not isBlank text
      rw [trimStart] at first
      rw [Option.mem_def.mp first] at stopped
      simpa using stopped
    · exact List.takeWhile_append_dropWhile.symm
  · rintro ⟨blanks, blank, trimmed, rfl⟩
    rw [trimStart, List.dropWhile_append_of_pos blank]
    cases rest with
    | nil => rfl
    | cons head rest =>
        have visible : isBlank head = false := trimmed head rfl
        simp [visible]

/-- A run of digits whose value can be read. -/
structure Numeral (text : List Char) (value : Nat) : Prop where
  digits : Digits text
  decimal_eq : decimal text = value
  value_le : value ≤ Cursor.largest

theorem Digits.trimmed_append {digits : List Char} (run : Digits digits)
    (rest : List Char) : Trimmed (digits ++ rest) := by
  obtain ⟨first, later, rfl⟩ := List.exists_cons_of_ne_nil run.nonempty
  intro character member
  cases member
  exact isBlank_of_isDigit (run.digit _ List.mem_cons_self)

end Token

namespace Cursor

open Token (Numeral Sign SignFree Trimmed)

theorem skipBlanks_eq_iff {cursor rest : Cursor} :
    cursor.skipBlanks = rest ↔
      ∃ blanks, Blanks blanks ∧ Trimmed rest.remaining ∧
        cursor.remaining = blanks ++ rest.remaining := by
  rw [← Token.trimStart_eq_iff]
  cases rest
  simp [skipBlanks]

theorem skipBlanks_spec (cursor : Cursor) :
    ∃ blanks, Blanks blanks ∧ Trimmed cursor.skipBlanks.remaining ∧
      cursor.remaining = blanks ++ cursor.skipBlanks.remaining :=
  skipBlanks_eq_iff.mp rfl

theorem accept_mark_eq_true_iff {mark : Char} (visible : isBlank mark = false)
    {cursor rest : Cursor} :
    cursor.accept [mark] = (true, rest) ↔
      ∃ blanks, Blanks blanks ∧
        cursor.remaining = blanks ++ mark :: rest.remaining := by
  rw [accept_eq_true_iff, skipBlanks, Token.trimStart_eq_iff]
  simp [Trimmed, visible]

theorem accept_mark_eq_false_iff {mark : Char} {cursor rest : Cursor} :
    cursor.accept [mark] = (false, rest) ↔
      cursor.skipBlanks = rest ∧ rest.remaining.head? ≠ some mark := by
  constructor
  · intro missed
    have kept := skipBlanks_of_accept_eq_false missed
    refine ⟨kept, fun first => ?_⟩
    obtain ⟨later, shape⟩ := List.head?_eq_some_iff.mp first
    have hit : cursor.accept [mark] = (true, ⟨later⟩) :=
      accept_eq_true_iff.mpr (by rw [kept, shape]; rfl)
    cases missed.symm.trans hit
  · rintro ⟨rfl, other⟩
    cases result : cursor.accept [mark] with
    | mk accepted rest =>
        cases accepted with
        | false => rw [skipBlanks_of_accept_eq_false result]
        | true =>
            have shape := accept_eq_true_iff.mp result
            simp [shape] at other

/-- The digits are read that stand behind the blanks, if their value is in
range. -/
theorem readUnsigned_eq (cursor : Cursor) :
    cursor.readUnsigned =
      let start := cursor.skipBlanks
      let digits := start.remaining.takeWhile Char.isDigit
      if digits ≠ [] ∧ decimal digits ≤ largest then
        (some (decimal digits), ⟨start.remaining.dropWhile Char.isDigit⟩)
      else (none, start) := by
  have digit : ∀ character ∈
      cursor.skipBlanks.remaining.takeWhile Char.isDigit,
      character.isDigit = true := fun character member =>
    List.all_eq_true.mp List.all_takeWhile character member
  simp only [readUnsigned, Token.valueOf?_eq digit, List.isEmpty_iff]
  split <;> rename_i none
  · simp [none]
  · by_cases bounded :
      decimal (cursor.skipBlanks.remaining.takeWhile Char.isDigit) ≤ largest
    · simp [none, bounded]
    · simp [bounded]

theorem readUnsigned_eq_some_iff {cursor rest : Cursor} {value : Nat} :
    cursor.readUnsigned = (some value, rest) ↔
      ∃ blanks digits, Blanks blanks ∧ Numeral digits value ∧
        Apart rest.remaining ∧
        cursor.remaining = blanks ++ (digits ++ rest.remaining) := by
  constructor
  · intro read
    obtain ⟨blanks, blank, trimmed, shape⟩ := skipBlanks_spec cursor
    rw [readUnsigned_eq] at read
    dsimp only at read
    split at read
    · next found =>
        cases read
        refine ⟨blanks, _, blank, ⟨⟨found.1, ?_⟩, rfl, found.2⟩,
          Token.apart_dropWhile _, ?_⟩
        · exact fun character member =>
            List.all_eq_true.mp List.all_takeWhile character member
        · rw [List.takeWhile_append_dropWhile]
          exact shape
    · simp at read
  · rintro ⟨blanks, digits, blank, numeral, apart, shape⟩
    have start : cursor.skipBlanks = ⟨digits ++ rest.remaining⟩ :=
      skipBlanks_eq_iff.mpr
        ⟨blanks, blank, numeral.digits.trimmed_append _, shape⟩
    obtain ⟨taken, left⟩ := Token.takeWhile_digits numeral.digits apart
    rw [readUnsigned_eq, start]
    simp [taken, left, numeral.digits.nonempty, numeral.decimal_eq,
      numeral.value_le]

theorem readUnsigned_eq_none {cursor rest : Cursor}
    (missed : cursor.readUnsigned = (none, rest)) :
    cursor.skipBlanks = rest := by
  rw [readUnsigned_eq] at missed
  dsimp only at missed
  split at missed
  · simp at missed
  · exact congrArg Prod.snd missed

theorem readUnsigned_of_apart {cursor rest : Cursor}
    (start : cursor.skipBlanks = rest) (apart : Apart rest.remaining) :
    cursor.readUnsigned = (none, rest) := by
  have nothing : rest.remaining.takeWhile Char.isDigit = [] := by
    cases shape : rest.remaining with
    | nil => rfl
    | cons first later =>
        have other : first.isDigit = false := apart first (by simp [shape])
        simp [other]
  rw [readUnsigned_eq, start]
  simp [nothing]

theorem trimmed_skipBlanks (cursor : Cursor) :
    Trimmed cursor.skipBlanks.remaining := by
  obtain ⟨_, _, trimmed, _⟩ := skipBlanks_spec cursor
  exact trimmed

theorem skipBlanks_of_trimmed {cursor : Cursor}
    (trimmed : Trimmed cursor.remaining) : cursor.skipBlanks = cursor :=
  skipBlanks_eq_iff.mpr ⟨[], Token.blanks_nil, trimmed, rfl⟩

section Signed

variable {cursor : Cursor} {required : Bool}

theorem readSigned_of_sign {mark : Char} {factor : Int} {later : List Char}
    (sign : Sign mark factor) (start : cursor.skipBlanks = ⟨mark :: later⟩) :
    cursor.readSigned required =
      readAfterSign factor ⟨mark :: later⟩ ⟨later⟩ := by
  have again := skipBlanks_of_trimmed (trimmed_skipBlanks cursor)
  rw [start] at again
  have accepted : accept [mark] ⟨mark :: later⟩ = (true, ⟨later⟩) :=
    accept_eq_true_iff.mpr (by rw [again]; rfl)
  simp only [readSigned, start]
  cases sign with
  | plus => rw [accepted]
  | minus =>
      have other : accept ['+'] ⟨'-' :: later⟩ = (false, ⟨'-' :: later⟩) :=
        accept_mark_eq_false_iff.mpr ⟨again, by simp⟩
      rw [other, accepted]

/-- Without a sign the digits are read alone, unless a sign is required. -/
theorem readSigned_of_signFree (free : SignFree cursor.skipBlanks.remaining) :
    cursor.readSigned required =
      if required then (none, cursor.skipBlanks)
      else cursor.readUnsigned.map (Option.map Int.ofNat) id := by
  have again := skipBlanks_of_trimmed (trimmed_skipBlanks cursor)
  have plus : cursor.skipBlanks.accept ['+'] = (false, cursor.skipBlanks) :=
    accept_mark_eq_false_iff.mpr ⟨again, fun first => (free '+' first).1 rfl⟩
  have minus : cursor.skipBlanks.accept ['-'] = (false, cursor.skipBlanks) :=
    accept_mark_eq_false_iff.mpr ⟨again, fun first => (free '-' first).2 rfl⟩
  have digits : cursor.skipBlanks.readUnsigned = cursor.readUnsigned := by
    rw [readUnsigned_eq, readUnsigned_eq, again]
  simp only [readSigned, plus, minus, digits]
  cases read : cursor.readUnsigned with
  | mk found rest =>
      cases found with
      | none =>
          rw [readUnsigned_eq_none read]
          rfl
      | some value => rfl

end Signed

/-- Where the read finds this, it takes a front off the text, and it finds the
same and takes as much of the front alone or with a part of the rest behind
it, if that part may go on there. -/
def Local {value : Type} (read : Cursor → value × Cursor)
    (goesOn : List Char → Prop) (found : value) : Prop :=
  ∀ ⦃cursor rest : Cursor⦄, read cursor = (found, rest) →
    ∃ front, cursor.remaining = front ++ rest.remaining ∧
      ∀ part, part <+: rest.remaining → goesOn part →
        read ⟨front ++ part⟩ = (found, ⟨part⟩)

theorem Local.weaken {value : Type} {read : Cursor → value × Cursor}
    {goesOn goesOnToo : List Char → Prop} {found : value}
    (here : Local read goesOn found)
    (fewer : ∀ part, goesOnToo part → goesOn part) :
    Local read goesOnToo found := by
  intro cursor rest hit
  obtain ⟨front, shape, again⟩ := here hit
  exact ⟨front, shape, fun part begins goes =>
    again part begins (fewer part goes)⟩

/-- A mark that is missing on a text is missing on every part of it. -/
theorem accept_mark_missed {mark : Char} {cursor rest : Cursor}
    (missed : cursor.accept [mark] = (false, rest)) :
    ∃ blanks, Blanks blanks ∧ cursor.remaining = blanks ++ rest.remaining ∧
      ∀ part, part <+: rest.remaining →
        accept [mark] ⟨blanks ++ part⟩ = (false, ⟨part⟩) := by
  obtain ⟨start, other⟩ := accept_mark_eq_false_iff.mp missed
  obtain ⟨blanks, blank, trimmed, shape⟩ := skipBlanks_eq_iff.mp start
  have others : ∀ character ∈ rest.remaining.head?, character ≠ mark := by
    rintro character first rfl
    exact other first
  refine ⟨blanks, blank, shape, fun part begins => ?_⟩
  refine accept_mark_eq_false_iff.mpr ⟨?_, fun first => ?_⟩
  · exact skipBlanks_eq_iff.mpr
      ⟨blanks, blank, Token.forall_head_of_prefix begins trimmed, rfl⟩
  · exact Token.forall_head_of_prefix begins others mark first rfl

theorem accept_local {mark : Char} (visible : isBlank mark = false)
    (accepted : Bool) : Local (accept [mark]) (fun _ => True) accepted := by
  intro cursor rest read
  cases accepted with
  | true =>
      obtain ⟨blanks, blank, shape⟩ := (accept_mark_eq_true_iff visible).mp read
      refine ⟨blanks ++ [mark], by simp [shape], fun part _ _ => ?_⟩
      exact (accept_mark_eq_true_iff visible).mpr ⟨blanks, blank, by simp⟩
  | false =>
      obtain ⟨blanks, _, shape, again⟩ := accept_mark_missed read
      exact ⟨blanks, shape, fun part begins _ => again part begins⟩

/-- Where a number is not read, a part of it might be. -/
theorem readUnsigned_local (found : Option Nat) :
    Local readUnsigned (fun part => found = none → Apart part) found := by
  intro cursor rest read
  cases found with
  | none =>
      obtain ⟨blanks, blank, trimmed, shape⟩ :=
        skipBlanks_eq_iff.mp (readUnsigned_eq_none read)
      refine ⟨blanks, shape, fun part begins apart => ?_⟩
      apply readUnsigned_of_apart _ (apart rfl)
      exact skipBlanks_eq_iff.mpr
        ⟨blanks, blank, Token.forall_head_of_prefix begins trimmed, rfl⟩
  | some value =>
      obtain ⟨blanks, digits, blank, numeral, apart, shape⟩ :=
        readUnsigned_eq_some_iff.mp read
      refine ⟨blanks ++ digits, by simp [shape], fun part begins _ => ?_⟩
      exact readUnsigned_eq_some_iff.mpr ⟨blanks, digits, blank, numeral,
        Token.forall_head_of_prefix begins apart, by simp⟩

theorem readSigned_local (found : Option Int) :
    Local (readSigned true) SignFree found := by
  intro cursor rest read
  obtain ⟨blanks, blank, trimmed, shape⟩ := skipBlanks_spec cursor
  have misses : ∀ part, part <+: cursor.skipBlanks.remaining →
      SignFree part → readSigned true ⟨blanks ++ part⟩ = (none, ⟨part⟩) := by
    intro part begins free
    have start : skipBlanks ⟨blanks ++ part⟩ = ⟨part⟩ :=
      skipBlanks_eq_iff.mpr
        ⟨blanks, blank, Token.forall_head_of_prefix begins trimmed, rfl⟩
    rw [readSigned_of_signFree (by rwa [start]), start]
    rfl
  rcases Token.sign_or_signFree cursor.skipBlanks.remaining with
    ⟨mark, factor, later, sign, first⟩ | free
  · have start : cursor.skipBlanks = ⟨mark :: later⟩ := by
      rw [← first]
    rw [readSigned_of_sign sign start, readAfterSign] at read
    split at read
    · cases read
      rw [start] at shape misses
      exact ⟨blanks, shape, misses⟩
    · next value after digits =>
        cases read
        obtain ⟨front, taken, again⟩ := readUnsigned_local _ digits
        have behind : later = front ++ rest.remaining := taken
        rw [first, behind] at shape
        refine ⟨blanks ++ mark :: front, by simp [shape],
          fun part begins _ => ?_⟩
        have visible : Trimmed (mark :: (front ++ part)) := by
          rw [first] at trimmed
          exact trimmed
        have signed : skipBlanks ⟨blanks ++ mark :: front ++ part⟩ =
            ⟨mark :: (front ++ part)⟩ :=
          skipBlanks_eq_iff.mpr ⟨blanks, blank, visible, by simp⟩
        rw [readSigned_of_sign sign signed, readAfterSign,
          again part begins (by simp)]
  · rw [readSigned_of_signFree free] at read
    cases read
    exact ⟨blanks, shape, misses⟩

/-- Two reads one after the other, if the first one may go on in all parts of
what it leaves to the second one. -/
theorem Local.both {first second : Type} {read : Cursor → first × Cursor}
    {next : Cursor → second × Cursor} {goesOn nextGoesOn : List Char → Prop}
    {found : first} {nextFound : second} (here : Local read goesOn found)
    (there : Local next nextGoesOn nextFound) {cursor middle rest : Cursor}
    (firstRead : read cursor = (found, middle))
    (nextRead : next middle = (nextFound, rest))
    (further : ∀ part, part <+: middle.remaining → goesOn part) :
    ∃ front, cursor.remaining = front ++ rest.remaining ∧
      ∀ part, part <+: rest.remaining → nextGoesOn part →
        ∃ between, read ⟨front ++ part⟩ = (found, between) ∧
          next between = (nextFound, ⟨part⟩) := by
  obtain ⟨front, shape, again⟩ := here firstRead
  obtain ⟨nextFront, nextShape, nextAgain⟩ := there nextRead
  refine ⟨front ++ nextFront, by simp [shape, nextShape], ?_⟩
  intro part begins goes
  have longer : nextFront ++ part <+: middle.remaining := by
    rw [nextShape]
    exact (List.prefix_append_right_inj nextFront).mpr begins
  refine ⟨⟨nextFront ++ part⟩, ?_, nextAgain part begins goes⟩
  rw [List.append_assoc]
  exact again (nextFront ++ part) longer (further _ longer)

end Cursor

end DiceRoller
