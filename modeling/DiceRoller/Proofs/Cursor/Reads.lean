import DiceRoller.Proofs.Notation.Form
import Mathlib.Algebra.Group.Nat.Defs

/-!
# Reads and tokens

What the reads of a cursor make of the tokens that remain.  A read that hits
takes its form off the tokens and a read that misses leaves them as they are,
so that nothing of blanks and leading zeros is left above this module.
-/

namespace DiceRoller

open Text (isBlank trimStart)
open Token (Apart Digits Visible decimal scan)
open Notation (IntegerForm Optionally SignedForm)

/-- A text without blanks in front, by what stands there. -/
inductive Token.Front : List Char → Prop where
  | empty : Front []
  | number {digits later : List Char} :
      Digits digits → Apart later → Front (digits ++ later)
  | mark {character : Char} {later : List Char} :
      Visible character → Front (character :: later)

namespace Token

theorem front_trimStart (text : List Char) :
    Front (trimStart isBlank text) := by
  have stopped := List.head?_dropWhile_not isBlank text
  unfold trimStart
  cases shape : text.dropWhile isBlank with
  | nil => exact .empty
  | cons character later =>
      have visible : isBlank character = false := by simpa [shape] using stopped
      by_cases digit : character.isDigit = true
      · have run : Digits ((character :: later).takeWhile Char.isDigit) := by
          constructor
          · simp [digit]
          · intro other member
            exact List.all_eq_true.mp List.all_takeWhile other member
        have front := Front.number run (apart_dropWhile (character :: later))
        rwa [List.takeWhile_append_dropWhile] at front
      · exact .mark ⟨visible, by simpa using digit⟩

private theorem decimal_dropZeros (digits : List Char) :
    decimal (digits.dropWhile (· == '0')) = decimal digits := by
  induction digits with
  | nil => rfl
  | cons character digits induction =>
      by_cases zero : character = '0'
      · subst zero
        simpa using induction
      · simp [zero]

/-- Without zeros in front every digit counts. -/
private theorem pow_length_le_decimal {character : Char} {digits : List Char}
    (digit : character.isDigit = true) (significant : character ≠ '0') :
    10 ^ digits.length ≤ decimal (character :: digits) := by
  have range := isDigit_iff.mp digit
  have notZero : character.toNat ≠ '0'.toNat := fun same =>
    significant (Char.toNat_inj.mp same)
  have positive : 1 ≤ character.toNat - '0'.toNat := by
    have zero : '0'.toNat = 48 := rfl
    omega
  have scaled := Nat.mul_le_mul_left (10 ^ digits.length) positive
  rw [decimal, Nat.ofDigitChars_cons, Nat.ofDigitChars_eq_ofDigitChars_zero,
    Nat.mul_zero, Nat.zero_add]
  omega

/-- The length of the digits is bounded only where their value is too. -/
theorem valueOf?_eq {digits : List Char}
    (digit : ∀ character ∈ digits, character.isDigit = true) :
    Cursor.valueOf? digits =
      if decimal digits ≤ Cursor.largest then some (decimal digits)
      else none := by
  have value := decimal_dropZeros digits
  have stopped := List.head?_dropWhile_not (· == '0') digits
  have sublist := List.dropWhile_sublist (l := digits) (· == '0')
  unfold Cursor.valueOf?
  generalize digits.dropWhile (· == '0') = significant at *
  by_cases short : significant.length ≤ Cursor.largestDigits
  · simp only [if_pos short, ← value]
    rfl
  · have large : Cursor.largest < decimal digits := by
      cases significant with
      | nil => simp at short
      | cons character others =>
          have bound : 10 ^ 10 ≤ 10 ^ others.length := by
            apply Nat.pow_le_pow_right (by decide)
            simp only [List.length_cons, Cursor.largestDigits] at short
            omega
          have reached : 10 ^ others.length ≤ decimal (character :: others) :=
            pow_length_le_decimal (digit character (sublist.subset (by simp)))
              (by simpa using stopped)
          rw [value] at reached
          simp only [Cursor.largest]
          omega
    simp [short, Nat.not_le.mpr large]

end Token

namespace Cursor

def tokens (cursor : Cursor) : List Token :=
  scan cursor.remaining

@[simp] theorem tokens_skipBlanks (cursor : Cursor) :
    cursor.skipBlanks.tokens = cursor.tokens :=
  Token.scan_trimStart cursor.remaining

/-- A read that hits exactly on a form, whatever follows it. -/
structure Tries {value : Type} (read : Cursor → Option value × Cursor)
    (form : List Token → value → Prop) : Prop where
  sound : ∀ {cursor rest : Cursor} {found : value},
    read cursor = (some found, rest) →
      ∃ front, form front found ∧ cursor.tokens = front ++ rest.tokens
  kept : ∀ {cursor rest : Cursor},
    read cursor = (none, rest) → rest.tokens = cursor.tokens
  complete : ∀ {cursor : Cursor} {front later : List Token} {found : value},
    form front found → cursor.tokens = front ++ later →
      ∃ rest, read cursor = (some found, rest) ∧ rest.tokens = later

namespace Tries

variable {value : Type} {read : Cursor → Option value × Cursor}
  {form : List Token → value → Prop}

theorem misses (tries : Tries read form) {cursor : Cursor}
    (absent : ∀ front found later,
      form front found → cursor.tokens ≠ front ++ later) :
    ∃ rest, read cursor = (none, rest) ∧ rest.tokens = cursor.tokens := by
  cases result : read cursor with
  | mk found rest =>
      cases found with
      | none => exact ⟨rest, rfl, tries.kept result⟩
      | some found =>
          obtain ⟨front, spelled, shape⟩ := tries.sound result
          exact absurd shape (absent front found rest.tokens spelled)

theorem optionally_sound (tries : Tries read form) (default : value)
    (cursor : Cursor) :
    ∃ front, Optionally form default front ((read cursor).1.getD default) ∧
      cursor.tokens = front ++ (read cursor).2.tokens := by
  cases result : read cursor with
  | mk found rest =>
      cases found with
      | none => exact ⟨[], .absent, (tries.kept result).symm⟩
      | some found =>
          obtain ⟨front, spelled, shape⟩ := tries.sound result
          exact ⟨front, .present spelled, shape⟩

/-- A form that is left out is not read off what stands in its place. -/
theorem optionally_complete (tries : Tries read form) {cursor : Cursor}
    {front later : List Token} {default spelled : value}
    (optionally : Optionally form default front spelled)
    (shape : cursor.tokens = front ++ later)
    (absent : ∀ other found rest, form other found → later ≠ other ++ rest) :
    ∃ found rest, read cursor = (found, rest) ∧
      found.getD default = spelled ∧ rest.tokens = later := by
  rcases optionally.absent_or_form with ⟨rfl, rfl⟩ | present
  · rw [List.nil_append] at shape
    obtain ⟨rest, result, kept⟩ := tries.misses (shape ▸ absent)
    exact ⟨none, rest, result, rfl, kept.trans shape⟩
  · obtain ⟨rest, result, remaining⟩ := tries.complete present shape
    exact ⟨some spelled, rest, result, rfl, remaining⟩

end Tries

private theorem readUnsigned_front (cursor : Cursor) :
    (∃ value rest, cursor.tokens = .number value :: rest.tokens ∧
        cursor.readUnsigned =
          if value ≤ largest then (some value, rest)
          else (none, cursor.skipBlanks)) ∨
      ((∀ value later, cursor.tokens ≠ .number value :: later) ∧
        cursor.readUnsigned = (none, cursor.skipBlanks)) := by
  have front := Token.front_trimStart cursor.remaining
  rw [← tokens_skipBlanks]
  unfold readUnsigned skipBlanks tokens
  generalize trimStart isBlank cursor.remaining = text at front
  cases front with
  | empty =>
      refine .inr ⟨?_, ?_⟩
      · simp
      · simp
  | @number digits later run apart =>
      refine .inl ⟨decimal digits, ⟨later⟩, Token.scan_digits run apart, ?_⟩
      have parts := Token.takeWhile_digits run apart
      have marked : digits.isEmpty = false := by simpa using run.nonempty
      by_cases bounded : decimal digits ≤ largest
      · simp [parts.1, parts.2, marked, Token.valueOf?_eq run.digit, bounded]
      · simp [parts.1, marked, Token.valueOf?_eq run.digit, bounded]
  | @mark character later visible =>
      refine .inr ⟨?_, ?_⟩
      · simp [Token.scan_mark visible]
      · simp [visible.2]

theorem readUnsigned_tries : Tries readUnsigned IntegerForm where
  sound {cursor rest found} result := by
    rcases readUnsigned_front cursor with ⟨value, after, shape, read⟩ | ⟨_, read⟩
    · by_cases bounded : value ≤ largest
      · rw [if_pos bounded, result] at read
        cases read
        exact ⟨[.number found], .number bounded, shape⟩
      · simp [read, bounded] at result
    · simp [read] at result
  kept {cursor rest} result := by
    rcases readUnsigned_front cursor with ⟨value, after, shape, read⟩ | ⟨_, read⟩
    · by_cases bounded : value ≤ largest
      · simp [read, bounded] at result
      · rw [if_neg bounded, result] at read
        cases read
        exact tokens_skipBlanks cursor
    · rw [result] at read
      cases read
      exact tokens_skipBlanks cursor
  complete {cursor front later found} form shape := by
    cases form with
    | number bounded =>
        rcases readUnsigned_front cursor with ⟨value, after, same, read⟩ | ⟨no, _⟩
        · rw [shape] at same
          cases same
          exact ⟨after, by rw [read, if_pos bounded], rfl⟩
        · exact absurd shape (no found later)

theorem accept_mark_sound {mark : Char} (visible : Visible mark)
    {cursor rest : Cursor}
    (result : cursor.accept [mark] = (true, rest)) :
    cursor.tokens = .mark mark :: rest.tokens := by
  have shape := accept_eq_true_iff.mp result
  rw [← tokens_skipBlanks, tokens, shape]
  exact Token.scan_mark visible rest.remaining

theorem skipBlanks_of_accept_eq_false {literal : List Char}
    {cursor rest : Cursor} (result : cursor.accept literal = (false, rest)) :
    cursor.skipBlanks = rest := by
  unfold accept at result
  dsimp only at result
  split at result
  · exact congrArg Prod.snd result
  · simp at result

theorem accept_kept {literal : List Char} {cursor rest : Cursor}
    (result : cursor.accept literal = (false, rest)) :
    rest.tokens = cursor.tokens := by
  rw [← skipBlanks_of_accept_eq_false result, tokens_skipBlanks]

theorem accept_mark_complete {mark : Char} {cursor : Cursor}
    {later : List Token} (shape : cursor.tokens = .mark mark :: later) :
    ∃ rest, cursor.accept [mark] = (true, rest) ∧ rest.tokens = later := by
  have front := Token.front_trimStart cursor.remaining
  rw [← tokens_skipBlanks] at shape
  simp only [accept_eq_true_iff]
  unfold tokens skipBlanks at *
  generalize trimStart isBlank cursor.remaining = text at *
  cases front with
  | empty => simp at shape
  | number run apart => simp [Token.scan_digits run apart] at shape
  | @mark character after visible =>
      rw [Token.scan_mark visible] at shape
      cases shape
      exact ⟨⟨after⟩, rfl, rfl⟩

theorem accept_mark_misses {mark : Char} (visible : Visible mark)
    {cursor : Cursor}
    (absent : ∀ later, cursor.tokens ≠ .mark mark :: later) :
    ∃ rest, cursor.accept [mark] = (false, rest) ∧
      rest.tokens = cursor.tokens := by
  cases result : cursor.accept [mark] with
  | mk accepted rest =>
      cases accepted with
      | false => exact ⟨rest, rfl, accept_kept result⟩
      | true =>
          exact absurd (accept_mark_sound visible result)
            (absent rest.tokens)

theorem atEnd_iff {cursor : Cursor} :
    cursor.atEnd.1 = true ↔ cursor.tokens = [] := by
  have front := Token.front_trimStart cursor.remaining
  rw [← tokens_skipBlanks]
  unfold atEnd tokens skipBlanks
  generalize trimStart isBlank cursor.remaining = text at front
  cases front with
  | empty => simp
  | number run apart => simp [Token.scan_digits run apart, run.nonempty]
  | mark visible => simp [Token.scan_mark visible]

private theorem readAfterSign_sound {factor found : Int}
    {start afterSign rest : Cursor}
    (result : readAfterSign factor start afterSign = (some found, rest)) :
    ∃ digits value, IntegerForm digits value ∧ found = factor * value ∧
      afterSign.tokens = digits ++ rest.tokens := by
  unfold readAfterSign at result
  split at result
  · simp at result
  · next value after read =>
      cases result
      obtain ⟨digits, integer, shape⟩ := readUnsigned_tries.sound read
      exact ⟨digits, value, integer, rfl, shape⟩

private theorem readAfterSign_kept {factor : Int}
    {start afterSign rest : Cursor}
    (result : readAfterSign factor start afterSign = (none, rest)) :
    rest = start := by
  unfold readAfterSign at result
  split at result
  · exact (congrArg Prod.snd result).symm
  · simp at result

private theorem readAfterSign_complete {value : Nat}
    {digits later : List Token} {afterSign : Cursor}
    (integer : IntegerForm digits value)
    (shape : afterSign.tokens = digits ++ later)
    (factor : Int) (start : Cursor) :
    ∃ rest, readAfterSign factor start afterSign =
        (some (factor * value), rest) ∧ rest.tokens = later := by
  obtain ⟨rest, read, remaining⟩ := readUnsigned_tries.complete integer shape
  exact ⟨rest, by simp [readAfterSign, read], remaining⟩

theorem readSigned_tries : Tries (readSigned true) SignedForm where
  sound {cursor rest found} result := by
    simp only [readSigned] at result
    split at result
    · next afterSign accepted =>
        obtain ⟨digits, value, integer, rfl, shape⟩ :=
          readAfterSign_sound result
        have plus := accept_mark_sound (by decide) accepted
        rw [tokens_skipBlanks, shape] at plus
        exact ⟨_, by simpa using SignedForm.plus integer, plus⟩
    · split at result
      · next afterSign accepted =>
          obtain ⟨digits, value, integer, rfl, shape⟩ :=
            readAfterSign_sound result
          have minus := accept_mark_sound (by decide) accepted
          rw [tokens_skipBlanks, shape] at minus
          exact ⟨_, by simpa using SignedForm.minus integer, minus⟩
      · simp at result
  kept {cursor rest} result := by
    have start : rest = cursor.skipBlanks := by
      simp only [readSigned] at result
      split at result
      · exact readAfterSign_kept result
      · split at result
        · exact readAfterSign_kept result
        · exact (congrArg Prod.snd result).symm
    rw [start, tokens_skipBlanks]
  complete {cursor front later found} form shape := by
    rw [← tokens_skipBlanks] at shape
    cases form with
    | plus integer =>
        obtain ⟨afterSign, accepted, remaining⟩ := accept_mark_complete shape
        have digits := readAfterSign_complete integer remaining 1
          cursor.skipBlanks
        simpa [readSigned, accepted] using digits
    | minus integer =>
        have notPlus : ∀ others,
            cursor.skipBlanks.tokens ≠ .mark '+' :: others := by
          simp [shape]
        obtain ⟨_, missed, _⟩ := accept_mark_misses (by decide) notPlus
        obtain ⟨afterSign, accepted, remaining⟩ := accept_mark_complete shape
        have digits := readAfterSign_complete integer remaining (-1)
          cursor.skipBlanks
        simpa [readSigned, missed, accepted] using digits

end Cursor

end DiceRoller
