import DiceRoller.Proofs.Random.Draws
import Mathlib.Algebra.BigOperators.Group.List.Basic
import Mathlib.Algebra.Ring.Int.Defs
import Mathlib.Algebra.Ring.Nat

/-!
# Sums of faces

What dice show together is at least one for each of them and at most their
sides, and there is no number in between that they cannot come to.
-/

namespace DiceRoller.Source

variable {dice : List Nat}

theorem sum_of_shown {faces : List Int}
    (shown : List.Forall₂ FaceOf faces dice) :
    (dice.length : Int) ≤ faces.sum ∧ faces.sum ≤ dice.sum := by
  induction shown with
  | nil => exact ⟨Int.le_refl 0, Int.le_refl 0⟩
  | cons first _ induction =>
      obtain ⟨least, most⟩ := first
      simp only [List.length_cons, List.sum_cons]
      omega

theorem exists_shown_of_sum (positive : ∀ sides ∈ dice, 0 < sides) {sum : Int}
    (least : (dice.length : Int) ≤ sum) (most : sum ≤ dice.sum) :
    ∃ faces, List.Forall₂ FaceOf faces dice ∧ faces.sum = sum := by
  induction dice generalizing sum with
  | nil => exact ⟨[], .nil, Int.le_antisymm least most⟩
  | cons sides later induction =>
      obtain ⟨firstPositive, laterPositive⟩ := List.forall_mem_cons.mp positive
      have few := List.length_le_sum_of_one_le later laterPositive
      simp only [List.length_cons, List.sum_cons] at least most
      -- The first die shows only what the others cannot make up for.
      obtain ⟨face, isFace, restLeast, restMost⟩ :
          ∃ face, FaceOf face sides ∧ later.length ≤ sum - face ∧
            sum - face ≤ later.sum := by
        refine ⟨max 1 (sum - later.sum), ⟨?_, ?_⟩, ?_, ?_⟩ <;> omega
      obtain ⟨others, shown, rest⟩ :=
        induction laterPositive restLeast restMost
      refine ⟨face :: others, .cons isFace shown, ?_⟩
      rw [List.sum_cons, rest]
      omega

end DiceRoller.Source
