import DiceRoller.Explanation
import DiceRoller.Proofs.Roll.Description

/-!
# What the error of an explanation tells

The error of an explanation shows the outcome that does not belong to its roll
and describes the roll, so that the outcome and the terms of the roll can be
told from its text.
-/

namespace DiceRoller

open Text (Unambiguous unambiguous_integer)
open Token (Apart)

namespace Outcome

theorem unambiguous_faces :
    Unambiguous (fun _ => True)
      (fun faces : List Int => Text.tupled (faces.map toString))
      (fun _ => True) := by
  have goesOn (later : String) : Apart ("," ++ later).toList := by
    simp [Apart]
  have closes (later : String) : Apart (")" ++ later).toList := by
    simp [Apart]
  have unsigned (later other : String) : "-" ++ later ≠ ")" ++ other := by
    intro same
    have marks := congrArg String.toList same
    simp at marks
  have clear := unambiguous_integer.tupled goesOn closes
    (Text.integer_ne_mark closes unsigned)
  intro faces others rest other _ _ _ _ same
  exact clear (fun _ _ => trivial) (fun _ _ => trivial) trivial trivial same

private theorem append_pieces (first second third fourth last rest : String) :
    first ++ second ++ third ++ fourth ++ last ++ rest =
      first ++ (second ++ (third ++ (fourth ++ (last ++ rest)))) := by
  simp only [String.append_assoc]

theorem shown_single_append (faces : List Int) (bonus : Int) (rest : String) :
    (single faces bonus).shown ++ rest =
      "RollResult(rolls=" ++ (Text.tupled (faces.map toString) ++
        (", bonus=" ++ (toString bonus ++ (")" ++ rest)))) :=
  append_pieces _ _ _ _ _ _

theorem shown_joined_append (left right : Outcome) (rest : String) :
    (joined left right).shown ++ rest =
      "CombinedResult(left=" ++ (left.shown ++
        (", right=" ++ (right.shown ++ (")" ++ rest)))) :=
  append_pieces _ _ _ _ _ _

theorem shown_single_ne_joined (faces : List Int) (bonus : Int)
    (left right : Outcome) (rest other : String) :
    (single faces bonus).shown ++ rest ≠ (joined left right).shown ++ other := by
  intro same
  rw [shown_single_append, shown_joined_append] at same
  have marks := congrArg (fun text => text.toList.head?) same
  simp at marks

/-- The text of an outcome tells its nesting, its faces and its bonuses, and
where it ends. -/
theorem unambiguous_shown :
    Unambiguous (fun _ => True) shown (fun _ => True) := by
  intro first second rest other _ _ _ _ same
  induction first generalizing second rest other with
  | single faces bonus =>
      cases second with
      | single otherFaces otherBonus =>
          rw [shown_single_append, shown_single_append] at same
          obtain ⟨sameFaces, afterFaces⟩ :=
            unambiguous_faces trivial trivial trivial trivial
              ((String.append_right_inj "RollResult(rolls=").mp same)
          obtain ⟨sameBonus, afterBonus⟩ := unambiguous_integer trivial trivial
            (by simp [Apart]) (by simp [Apart])
            ((String.append_right_inj ", bonus=").mp afterFaces)
          rw [sameFaces, sameBonus]
          exact ⟨rfl, (String.append_right_inj ")").mp afterBonus⟩
      | joined left right =>
          exact absurd same (shown_single_ne_joined _ _ _ _ _ _)
  | joined left right leftInduction rightInduction =>
      cases second with
      | single otherFaces otherBonus =>
          exact absurd same.symm (shown_single_ne_joined _ _ _ _ _ _)
      | joined otherLeft otherRight =>
          rw [shown_joined_append, shown_joined_append] at same
          obtain ⟨sameLeft, afterLeft⟩ := leftInduction
            ((String.append_right_inj "CombinedResult(left=").mp same)
          obtain ⟨sameRight, afterRight⟩ := rightInduction
            ((String.append_right_inj ", right=").mp afterLeft)
          rw [sameLeft, sameRight]
          exact ⟨rfl, (String.append_right_inj ")").mp afterRight⟩

end Outcome

namespace Mismatch

theorem message_eq (mismatch : Mismatch) :
    mismatch.message = "Result " ++ (mismatch.outcome.shown ++
      (" does not belong to " ++ mismatch.roll.describe)) := by
  rw [message, String.append_assoc, String.append_assoc]

/-- Errors are told alike exactly if the outcomes are the same and the rolls
have the same terms. -/
theorem message_eq_iff (mismatch other : Mismatch) :
    mismatch.message = other.message ↔
      mismatch.outcome = other.outcome ∧
        mismatch.roll.terms = other.roll.terms := by
  constructor
  · intro same
    rw [message_eq, message_eq] at same
    obtain ⟨outcome, afterOutcome⟩ :=
      Outcome.unambiguous_shown trivial trivial trivial trivial
        ((String.append_right_inj "Result ").mp same)
    exact ⟨outcome, Roll.terms_eq_of_describe_eq
      ((String.append_right_inj " does not belong to ").mp afterOutcome)⟩
  · rintro ⟨outcome, terms⟩
    rw [message, message, outcome, Roll.describe_eq_of_terms_eq terms]

end Mismatch

end DiceRoller
