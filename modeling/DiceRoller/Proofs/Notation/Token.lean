import DiceRoller.Cursor.Basic

/-!
# Numbers and marks of a text

Every read drops the blanks in front of it and takes a whole run of digits or
a single mark.  What a reader makes of a text therefore depends on the numbers
and marks of the text alone.  `Written` says which numbers and marks a text
may be taken for, and `scan` takes every run of digits as a whole.
-/

namespace DiceRoller

open Text (isBlank trimStart)

/-- A number of any size, or a visible character that is no digit. -/
inductive Token where
  | number (value : Nat)
  | mark (character : Char)
deriving DecidableEq, Repr

namespace Token

/-- The value of a run of digits. -/
def decimal (digits : List Char) : Nat :=
  Nat.ofDigitChars 10 digits 0

def Blanks (text : List Char) : Prop :=
  ∀ character ∈ text, isBlank character = true

/-- A character that makes a mark of its own. -/
def Visible (character : Char) : Prop :=
  isBlank character = false ∧ character.isDigit = false

instance (character : Char) : Decidable (Visible character) :=
  inferInstanceAs (Decidable (_ ∧ _))

/-- A run of digits, which may be part of a longer one. -/
structure Digits (text : List Char) : Prop where
  nonempty : text ≠ []
  digit : ∀ character ∈ text, character.isDigit = true

/-- A text written with the given tokens: blanks may stand before every token
and at the end, and a number is a run of digits with any leading zeros. -/
inductive Written : List Char → List Token → Prop where
  | done {blanks : List Char} : Blanks blanks → Written blanks []
  | number {blanks digits later : List Char} {tokens : List Token} :
      Blanks blanks → Digits digits → Written later tokens →
      Written (blanks ++ digits ++ later) (.number (decimal digits) :: tokens)
  | mark {blanks later : List Char} {tokens : List Token} (character : Char) :
      Blanks blanks → Written later tokens →
      Written (blanks ++ character :: later) (.mark character :: tokens)

/-- The tokens of a text in front of which a digit stands or does not stand.
A digit that follows a digit belongs to a number that has begun. -/
def scanAfter (digitBefore : Bool) : List Char → List Token
  | [] => []
  | character :: later =>
      if character.isDigit then
        if digitBefore then scanAfter true later
        else
          .number (decimal (character :: later.takeWhile Char.isDigit)) ::
            scanAfter true later
      else if isBlank character then scanAfter false later
      else .mark character :: scanAfter false later

/-- The tokens of a text, where every run of digits is taken as a whole. -/
def scan (text : List Char) : List Token :=
  scanAfter false text

/-- A text that does not go on with a run of digits in front of it. -/
def Apart (text : List Char) : Prop :=
  ∀ character ∈ text.head?, character.isDigit = false

@[simp] theorem decimal_cons_zero (digits : List Char) :
    decimal ('0' :: digits) = decimal digits := by
  simp [decimal, Nat.ofDigitChars_cons]

theorem isDigit_iff {character : Char} :
    character.isDigit = true ↔
      48 ≤ character.toNat ∧ character.toNat ≤ 57 := by
  simp only [Char.isDigit, Bool.and_eq_true, decide_eq_true_eq, ge_iff_le,
    UInt32.le_iff_toNat_le]
  rfl

theorem isBlank_of_isDigit {character : Char}
    (digit : character.isDigit = true) : isBlank character = false := by
  have range := isDigit_iff.mp digit
  simp only [isBlank, Text.isWhiteSpace]
  generalize character.toNat = code at range
  simp only [Bool.or_eq_false_iff, Bool.and_eq_false_iff,
    decide_eq_false_iff_not, beq_eq_false_iff_ne, ne_eq]
  omega

theorem isDigit_of_isBlank {character : Char}
    (blank : isBlank character = true) : character.isDigit = false := by
  cases digit : character.isDigit with
  | false => rfl
  | true => simp [isBlank_of_isDigit digit] at blank

theorem blanks_nil : Blanks [] := by
  simp [Blanks]

theorem apart_cons {character : Char} {later : List Char}
    (other : character.isDigit = false) : Apart (character :: later) := by
  simpa [Apart] using other

theorem apart_dropWhile (text : List Char) :
    Apart (text.dropWhile Char.isDigit) := by
  have stopped := List.head?_dropWhile_not Char.isDigit text
  unfold Apart
  cases first : (text.dropWhile Char.isDigit).head? with
  | none => simp
  | some character => simpa [first] using stopped

theorem takeWhile_digits {digits later : List Char} (run : Digits digits)
    (apart : Apart later) :
    (digits ++ later).takeWhile Char.isDigit = digits ∧
      (digits ++ later).dropWhile Char.isDigit = later := by
  rw [List.takeWhile_append_of_pos run.digit,
    List.dropWhile_append_of_pos run.digit]
  cases later with
  | nil => simp
  | cons character later =>
      have other : character.isDigit = false := apart character (by simp)
      simp [other]

theorem takeWhile_append_of_apart (first : List Char) {later : List Char}
    (apart : Apart later) :
    (first ++ later).takeWhile Char.isDigit =
      first.takeWhile Char.isDigit := by
  induction first with
  | nil =>
      cases later with
      | nil => rfl
      | cons character later =>
          have other : character.isDigit = false := apart character (by simp)
          simp [other]
  | cons character first induction =>
      rw [List.cons_append, List.takeWhile_cons, List.takeWhile_cons, induction]

theorem scanAfter_of_apart {later : List Char} (apart : Apart later)
    (digitBefore : Bool) : scanAfter digitBefore later = scan later := by
  cases later with
  | nil => rfl
  | cons character later =>
      have other : character.isDigit = false := apart character (by simp)
      simp [scan, scanAfter, other]

@[simp] theorem scan_nil : scan [] = [] := rfl

theorem scan_blank {character : Char} (blank : isBlank character = true)
    (later : List Char) : scan (character :: later) = scan later := by
  simp [scan, scanAfter, isDigit_of_isBlank blank, blank]

theorem scan_mark {character : Char} (visible : Visible character)
    (later : List Char) :
    scan (character :: later) = .mark character :: scan later := by
  simp [scan, scanAfter, visible.1, visible.2]

private theorem scanAfter_digits {digits later : List Char}
    (digit : ∀ character ∈ digits, character.isDigit = true)
    (apart : Apart later) :
    scanAfter true (digits ++ later) = scan later := by
  induction digits with
  | nil => exact scanAfter_of_apart apart true
  | cons character digits induction =>
      have first : character.isDigit = true := digit character (by simp)
      have others := induction fun other member => digit other (by simp [member])
      simp [scanAfter, first, others]

theorem scan_digits {digits later : List Char} (run : Digits digits)
    (apart : Apart later) :
    scan (digits ++ later) = .number (decimal digits) :: scan later := by
  have taken := (takeWhile_digits run apart).1
  cases digits with
  | nil => exact absurd rfl run.nonempty
  | cons character digits =>
      have first : character.isDigit = true := run.digit character (by simp)
      have others : ∀ other ∈ digits, other.isDigit = true := by
        intro other member
        exact run.digit other (by simp [member])
      rw [List.cons_append, List.takeWhile_cons_of_pos first] at taken
      simp [scan, scanAfter, first, taken, scanAfter_digits others apart]

theorem scan_blanks {blanks : List Char} (blank : Blanks blanks)
    (later : List Char) : scan (blanks ++ later) = scan later := by
  induction blanks with
  | nil => rfl
  | cons character blanks induction =>
      rw [List.cons_append, scan_blank (blank character (by simp))]
      apply induction
      intro other member
      exact blank other (by simp [member])

private theorem scanAfter_append (first : List Char) {later : List Char}
    (apart : Apart later) (digitBefore : Bool) :
    scanAfter digitBefore (first ++ later) =
      scanAfter digitBefore first ++ scan later := by
  induction first generalizing digitBefore with
  | nil => exact scanAfter_of_apart apart digitBefore
  | cons character first induction =>
      simp only [List.cons_append, scanAfter, induction,
        takeWhile_append_of_apart first apart]
      split
      · split <;> simp
      · split <;> simp

/-- No token reaches from a part of a text into one that is apart. -/
theorem scan_append (first : List Char) {later : List Char}
    (apart : Apart later) : scan (first ++ later) = scan first ++ scan later :=
  scanAfter_append first apart false

/-- Blanks in front of a text do not show in its tokens. -/
@[simp] theorem scan_trimStart (text : List Char) :
    scan (trimStart isBlank text) = scan text := by
  unfold trimStart
  induction text with
  | nil => rfl
  | cons character later induction =>
      by_cases blank : isBlank character = true
      · rw [List.dropWhile_cons_of_pos blank, induction, scan_blank blank]
      · rw [List.dropWhile_cons_of_neg blank]

theorem Written.blanks {blanks text : List Char} {tokens : List Token}
    (blank : Blanks blanks) (written : Written text tokens) :
    Written (blanks ++ text) tokens := by
  have both {more : List Char} (moreBlank : Blanks more) :
      Blanks (blanks ++ more) := by
    intro character member
    rcases List.mem_append.mp member with first | second
    · exact blank character first
    · exact moreBlank character second
  cases written with
  | done moreBlank => exact .done (both moreBlank)
  | number moreBlank digits later =>
      simpa using Written.number (both moreBlank) digits later
  | mark character moreBlank later =>
      simpa using Written.mark character (both moreBlank) later

theorem written_scan (text : List Char) : Written text (scan text) := by
  -- By the length, since a whole run of digits is taken off the text at once.
  induction size : text.length using Nat.strongRecOn generalizing text with
  | ind size induction =>
      cases text with
      | nil => exact .done blanks_nil
      | cons character later =>
          have laterWritten : Written later (scan later) :=
            induction later.length (by simp [← size]) later rfl
          by_cases digit : character.isDigit = true
          · have digits : Digits (character :: later.takeWhile Char.isDigit) := by
              constructor
              · simp
              · intro other member
                rcases List.mem_cons.mp member with rfl | inside
                · exact digit
                · exact List.all_eq_true.mp List.all_takeWhile other inside
            have shorter :=
              (List.dropWhile_sublist (l := later) Char.isDigit).length_le
            have rest := induction (later.dropWhile Char.isDigit).length
              (by simp only [List.length_cons] at size; omega) _ rfl
            have written := Written.number blanks_nil digits rest
            rw [← scan_digits digits (apart_dropWhile later)] at written
            simpa using written
          · by_cases blank : isBlank character = true
            · have first : Blanks [character] := by simpa [Blanks]
              rw [scan_blank blank]
              exact laterWritten.blanks first
            · have visible : Visible character :=
                ⟨by simpa using blank, by simpa using digit⟩
              rw [scan_mark visible]
              exact .mark character blanks_nil laterWritten

end Token

end DiceRoller
