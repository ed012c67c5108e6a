import DiceRoller.Proofs.Cursor.Extent

/-!
# Reads go forward

A read takes a front off the text that remains, and leaves what stands behind
it as it is.  If it misses, this front is the blanks that the text begins with.
-/

namespace DiceRoller.Cursor

open Text (isBlank)
open Token (Blanks)

/-- A read goes forward from a cursor to what it leaves, and over nothing but
blanks if it has missed. -/
structure Advances (missed : Prop) (cursor rest : Cursor) : Prop where
  suffix : rest.remaining <:+ cursor.remaining
  skips : missed → cursor.skipBlanks = rest

section Reads

variable (cursor : Cursor)

theorem skipBlanks_suffix :
    cursor.skipBlanks.remaining <:+ cursor.remaining :=
  List.dropWhile_suffix isBlank

theorem advances_skipBlanks (missed : Prop) :
    Advances missed cursor cursor.skipBlanks where
  suffix := skipBlanks_suffix cursor
  skips _ := rfl

theorem advances_accept (literal : List Char) :
    Advances ((cursor.accept literal).1 = false) cursor
      (cursor.accept literal).2 := by
  cases result : cursor.accept literal with
  | mk accepted rest =>
      cases accepted with
      | false =>
          rw [← skipBlanks_of_accept_eq_false result]
          exact advances_skipBlanks cursor _
      | true =>
          have shape := accept_eq_true_iff.mp result
          have behind : rest.remaining <:+ cursor.skipBlanks.remaining := by
            rw [shape]
            exact List.suffix_append literal rest.remaining
          constructor
          · exact behind.trans (skipBlanks_suffix cursor)
          · intro missed
            cases missed

theorem advances_readUnsigned :
    Advances (cursor.readUnsigned.1 = none) cursor cursor.readUnsigned.2 := by
  rw [readUnsigned_eq]
  dsimp only
  split
  · constructor
    · exact (List.dropWhile_suffix _).trans (skipBlanks_suffix cursor)
    · intro missed
      cases missed
  · exact advances_skipBlanks cursor _

theorem advances_readSigned (signRequired : Bool) :
    Advances ((cursor.readSigned signRequired).1 = none) cursor
      (cursor.readSigned signRequired).2 := by
  rcases Token.sign_or_signFree cursor.skipBlanks.remaining with
    ⟨mark, factor, later, sign, first⟩ | free
  · have start : cursor.skipBlanks = ⟨mark :: later⟩ := by
      rw [← first]
    have digits := advances_readUnsigned ⟨later⟩
    rw [readSigned_of_sign sign start, readAfterSign]
    split
    · rw [← start]
      exact advances_skipBlanks cursor _
    · next value rest read =>
        have skipped := skipBlanks_suffix cursor
        rw [read] at digits
        rw [start] at skipped
        constructor
        · exact digits.suffix.trans
            ((List.suffix_cons mark later).trans skipped)
        · intro missed
          cases missed
  · rw [readSigned_of_signFree free]
    cases signRequired with
    | true => exact advances_skipBlanks cursor _
    | false =>
        have digits := advances_readUnsigned cursor
        constructor
        · exact digits.suffix
        · intro missed
          exact digits.skips (Option.map_eq_none_iff.mp missed)

end Reads

theorem Advances.blanks {missed : Prop} {cursor rest : Cursor}
    (advances : Advances missed cursor rest) (miss : missed) :
    ∃ blanks, Blanks blanks ∧ cursor.remaining = blanks ++ rest.remaining := by
  obtain ⟨blanks, blank, _, shape⟩ :=
    skipBlanks_eq_iff.mp (advances.skips miss)
  exact ⟨blanks, blank, shape⟩

end DiceRoller.Cursor
