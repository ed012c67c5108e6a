import DiceRoller.Proofs.Cursor.Extent

/-!
# Numbers are read exactly

What a text is read as depends on the digits that stand behind its blanks, and
on a sign in front of them: their decimal value counts, however long they are
and however many zeros they begin with.  A read that misses leaves everything
from the first character on that is not blank, also the sign that it looked
behind.
-/

namespace DiceRoller.Cursor

open Text (isBlank)
open Token (Sign SignFree Trimmed decimal)

section Signed

variable {text later : List Char} {mark : Char} {factor : Int}

/-- Behind a sign stands the number that it multiplies by. -/
theorem readSigned_of_value (required : Bool) (sign : Sign mark factor)
    (start : text.dropWhile isBlank = mark :: later) {value : Nat}
    {rest : Cursor} (read : readUnsigned ⟨later⟩ = (some value, rest)) :
    readSigned required ⟨text⟩ = (some (factor * value), rest) := by
  have skipped : skipBlanks ⟨text⟩ = ⟨mark :: later⟩ := congrArg mk start
  rw [readSigned_of_sign sign skipped, readAfterSign, read]

/-- A sign without a number behind it is left in the text. -/
theorem readSigned_of_bare_sign (required : Bool) (sign : Sign mark factor)
    (start : text.dropWhile isBlank = mark :: later) {rest : Cursor}
    (missed : readUnsigned ⟨later⟩ = (none, rest)) :
    readSigned required ⟨text⟩ = (none, ⟨text.dropWhile isBlank⟩) := by
  have skipped : skipBlanks ⟨text⟩ = ⟨mark :: later⟩ := congrArg mk start
  rw [readSigned_of_sign sign skipped, readAfterSign, missed, start]

end Signed

/-- The digits behind the blanks are read if there are any and their value is
in range.  A sign in front of a number that is read makes it positive or
negative; without a sign the number is read alone, unless a sign is required.
In all other cases only the blanks are dropped. -/
theorem numbers_exact (text : List Char) :
    let start := text.dropWhile isBlank
    let digits := start.takeWhile Char.isDigit
    readUnsigned ⟨text⟩ =
        (if digits ≠ [] ∧ decimal digits ≤ largest then
          (some (decimal digits), ⟨start.dropWhile Char.isDigit⟩)
        else (none, ⟨start⟩)) ∧
      ∀ required : Bool,
        (∀ mark factor later, Sign mark factor → start = mark :: later →
          (∀ value rest, readUnsigned ⟨later⟩ = (some value, rest) →
            readSigned required ⟨text⟩ = (some (factor * value), rest)) ∧
          (∀ rest, readUnsigned ⟨later⟩ = (none, rest) →
            readSigned required ⟨text⟩ = (none, ⟨start⟩))) ∧
        (SignFree start →
          readSigned required ⟨text⟩ =
            if required then (none, ⟨start⟩)
            else (readUnsigned ⟨text⟩).map (Option.map Int.ofNat) id) := by
  intro start digits
  refine ⟨readUnsigned_eq ⟨text⟩, fun required => ⟨?_, ?_⟩⟩
  · intro mark factor later sign begins
    constructor
    · intro value rest read
      exact readSigned_of_value required sign begins read
    · intro rest missed
      exact readSigned_of_bare_sign required sign begins missed
  · intro free
    exact readSigned_of_signFree free

theorem numbers_exact_padded :
    readSigned true ⟨"\t- 007x".toList⟩ = (some (-7), ⟨"x".toList⟩) ∧
      readSigned false ⟨" +2147483648d".toList⟩ =
        (none, ⟨"+2147483648d".toList⟩) ∧
      readSigned false ⟨" 00000000042".toList⟩ = (some 42, ⟨[]⟩) := by
  obtain ⟨_, padded⟩ := numbers_exact "\t- 007x".toList
  obtain ⟨_, large⟩ := numbers_exact " +2147483648d".toList
  obtain ⟨digits, plain⟩ := numbers_exact " 00000000042".toList
  have behind : readUnsigned ⟨" 007x".toList⟩ = (some 7, ⟨"x".toList⟩) := by
    decide
  have tooLarge : readUnsigned ⟨"2147483648d".toList⟩ =
      (none, ⟨"2147483648d".toList⟩) := by decide
  have free : SignFree "00000000042".toList := by
    simp [SignFree]
  refine ⟨?_, ?_, ?_⟩
  · exact ((padded true).1 '-' (-1) _ .minus rfl).1 7 _ behind
  · exact ((large false).1 '+' 1 _ .plus rfl).2 _ tooLarge
  · rw [(plain false).2 free, digits]
    rfl

end DiceRoller.Cursor
