import DiceRoller.Text.Blank
import DiceRoller.Text.Quoted

/-!
# Cursors

A cursor stands in a text and knows what remains of it.  Every read drops the
blanks in front of it, also when it misses; apart from these blanks a read
that misses drops nothing.
-/

namespace DiceRoller

open Text (isBlank trimStart)

/-- A position in a text, given by the text that remains. -/
structure Cursor where
  remaining : List Char
deriving DecidableEq, Repr

namespace Cursor

/-- The largest number that is read; a larger one is no number. -/
def largest : Nat := 2147483647

/-- `largest` has this many digits. -/
def largestDigits : Nat := 10

/-- The cursor at the first character that is not blank. -/
def skipBlanks (cursor : Cursor) : Cursor :=
  ⟨trimStart isBlank cursor.remaining⟩

/-- Whether nothing but blanks remains. -/
def atEnd (cursor : Cursor) : Bool × Cursor :=
  let start := cursor.skipBlanks
  (start.remaining.isEmpty, start)

/-- The value of a digit run if it is at most `largest`.  Leading zeros do not
count, and the length of the other digits is bounded before their value is
computed. -/
def valueOf? (digits : List Char) : Option Nat :=
  let significant := digits.dropWhile (· == '0')
  if significant.length ≤ largestDigits then
    let value := Nat.ofDigitChars 10 significant 0
    if value ≤ largest then some value else none
  else none

/-- Read a run of digits; one whose value is too large is no number. -/
def readUnsigned (cursor : Cursor) : Option Nat × Cursor :=
  let start := cursor.skipBlanks
  let digits := start.remaining.takeWhile Char.isDigit
  if digits.isEmpty then (none, start)
  else
    match valueOf? digits with
    | none => (none, start)
    | some value => (some value, ⟨start.remaining.dropWhile Char.isDigit⟩)

/-- Read the given literal; the empty literal is read everywhere. -/
def accept (literal : List Char) (cursor : Cursor) : Bool × Cursor :=
  let start := cursor.skipBlanks
  match literal.isPrefixOf? start.remaining with
  | none => (false, start)
  | some rest => (true, ⟨rest⟩)

/-- Read the digits after a sign; without digits the sign stays unread. -/
def readAfterSign (factor : Int) (start afterSign : Cursor) :
    Option Int × Cursor :=
  match afterSign.readUnsigned with
  | (none, _) => (none, start)
  | (some value, rest) => (some (factor * value), rest)

/-- Read a run of digits with a sign in front, which may be left out unless
`signRequired`. -/
def readSigned (signRequired : Bool) (cursor : Cursor) :
    Option Int × Cursor :=
  let start := cursor.skipBlanks
  match start.accept ['+'] with
  | (true, afterSign) => readAfterSign 1 start afterSign
  | (false, _) =>
      match start.accept ['-'] with
      | (true, afterSign) => readAfterSign (-1) start afterSign
      | (false, _) =>
          if signRequired then (none, start)
          else
            match start.readUnsigned with
            | (none, _) => (none, start)
            | (some value, rest) => (some (Int.ofNat value), rest)

/-- The cursor as it is shown to a reader. -/
def shown (cursor : Cursor) : String :=
  "Cursor(" ++ Text.quoted (String.ofList cursor.remaining) ++ ")"

private theorem isPrefixOf?_eq_some_iff
    {literal text rest : List Char} :
    literal.isPrefixOf? text = some rest ↔ text = literal ++ rest := by
  induction literal generalizing text with
  | nil =>
      change some text = some rest ↔ text = rest
      simp
  | cons character literal induction =>
      cases text with
      | nil =>
          change none = some rest ↔ [] = character :: literal ++ rest
          simp
      | cons head text =>
          change (if character == head then literal.isPrefixOf? text
            else none) = some rest ↔ head :: text = character :: literal ++ rest
          by_cases same : character = head
          · simp [same, induction]
          · simp [same, Ne.symm same]

theorem skipBlanks_length_le (cursor : Cursor) :
    cursor.skipBlanks.remaining.length ≤ cursor.remaining.length :=
  Text.trimStart_length_le isBlank cursor.remaining

/-- A read literal is exactly what stood in front of the rest. -/
theorem accept_eq_true_iff
    {literal : List Char} {cursor rest : Cursor} :
    cursor.accept literal = (true, rest) ↔
      cursor.skipBlanks.remaining = literal ++ rest.remaining := by
  rw [← isPrefixOf?_eq_some_iff]
  cases rest with
  | mk text =>
      simp only [accept]
      cases literal.isPrefixOf? cursor.skipBlanks.remaining <;> simp

theorem accept_length_lt
    {literal : List Char} {cursor rest : Cursor} (marked : literal ≠ [])
    (accepted : cursor.accept literal = (true, rest)) :
    rest.remaining.length < cursor.remaining.length := by
  have shape := congrArg List.length (accept_eq_true_iff.mp accepted)
  have skipped := skipBlanks_length_le cursor
  have positive := List.length_pos_iff.mpr marked
  rw [List.length_append] at shape
  omega

theorem accept_length_le (literal : List Char) (cursor : Cursor) :
    (cursor.accept literal).2.remaining.length ≤ cursor.remaining.length := by
  have skipped := skipBlanks_length_le cursor
  simp only [accept]
  cases found : literal.isPrefixOf? cursor.skipBlanks.remaining with
  | none => exact skipped
  | some rest =>
      have shape := congrArg List.length (isPrefixOf?_eq_some_iff.mp found)
      rw [List.length_append] at shape
      simp only
      omega

theorem readUnsigned_length_le (cursor : Cursor) :
    cursor.readUnsigned.2.remaining.length ≤ cursor.remaining.length := by
  have skipped := skipBlanks_length_le cursor
  have dropped := (List.dropWhile_sublist (l := cursor.skipBlanks.remaining)
    Char.isDigit).length_le
  unfold readUnsigned
  dsimp only
  split
  · exact skipped
  · split
    · exact skipped
    · exact Nat.le_trans dropped skipped

theorem readSigned_length_le (signRequired : Bool) (cursor : Cursor) :
    (cursor.readSigned signRequired).2.remaining.length ≤
      cursor.remaining.length := by
  have skipped := skipBlanks_length_le cursor
  have signed (factor : Int) (sign : List Char) :
      (readAfterSign factor cursor.skipBlanks
        (cursor.skipBlanks.accept sign).2).2.remaining.length ≤
        cursor.remaining.length := by
    have afterSign := accept_length_le sign cursor.skipBlanks
    have afterDigits :=
      readUnsigned_length_le (cursor.skipBlanks.accept sign).2
    unfold readAfterSign
    split
    · exact skipped
    · next rest equality =>
        rw [equality] at afterDigits
        exact Nat.le_trans afterDigits (Nat.le_trans afterSign skipped)
  have plain := readUnsigned_length_le cursor.skipBlanks
  unfold readSigned
  dsimp only
  split
  · next afterSign equality =>
      simpa [equality] using signed 1 ['+']
  · split
    · next afterSign equality =>
        simpa [equality] using signed (-1) ['-']
    · split
      · exact skipped
      · split
        · exact skipped
        · next rest equality =>
            rw [equality] at plain
            exact Nat.le_trans plain skipped

end Cursor

end DiceRoller
