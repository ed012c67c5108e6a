import DiceRoller.Proofs.Random.Draws
import Mathlib.Algebra.BigOperators.Group.Finset.Sigma
import Mathlib.Algebra.BigOperators.Ring.Finset
import Mathlib.Algebra.Ring.Int.Defs
import Mathlib.Tactic.Ring

/-!
# All that dice can show

The faces that dice can show together, each die one of its own.  Summed over
all of them, every die shows the mean of its first face and its last one.
-/

namespace DiceRoller.Source

/-- The face of a die that has so many faces below it. -/
def faceAbove : Nat ↪ Int where
  toFun below := below + 1
  inj' first second same := by simpa using same

def faces (sides : Nat) : Finset Int :=
  (Finset.range sides).map faceAbove

theorem mem_faces {face : Int} {sides : Nat} :
    face ∈ faces sides ↔ FaceOf face sides := by
  rw [faces, Finset.mem_map]
  constructor
  · rintro ⟨below, inside, rfl⟩
    have few := Finset.mem_range.mp inside
    show 1 ≤ (below + 1 : Int) ∧ (below + 1 : Int) ≤ sides
    omega
  · rintro ⟨positive, small⟩
    refine ⟨(face - 1).toNat, Finset.mem_range.mpr (by omega), ?_⟩
    show ((face - 1).toNat + 1 : Int) = face
    omega

theorem card_faces (sides : Nat) : (faces sides).card = sides := by
  rw [faces, Finset.card_map, Finset.card_range]

/-- A die shows half of one more than its sides on the whole. -/
theorem two_mul_sum_faces (sides : Nat) :
    2 * ∑ face ∈ faces sides, face = sides * (sides + 1) := by
  induction sides with
  | zero => rfl
  | succ sides induction =>
      rw [faces, Finset.sum_map] at induction ⊢
      rw [Finset.sum_range_succ, mul_add, induction]
      show (sides * (sides + 1) + 2 * (sides + 1) : Int) = _
      push_cast
      ring

/-- The face of one die and the faces of those behind it. -/
def showFirst : Int × List Int ↪ List Int where
  toFun shown := shown.1 :: shown.2
  inj' first second same := by
    cases first
    cases second
    simpa using same

theorem showFirst_apply (face : Int) (others : List Int) :
    showFirst (face, others) = face :: others := rfl

/-- All faces that dice can show, one face of each die in order. -/
def showings : List Nat → Finset (List Int)
  | [] => {[]}
  | sides :: later => (faces sides ×ˢ showings later).map showFirst

theorem mem_showings {faces : List Int} {dice : List Nat} :
    faces ∈ showings dice ↔ List.Forall₂ FaceOf faces dice := by
  induction dice generalizing faces with
  | nil => simp [showings]
  | cons sides later induction =>
      cases faces with
      | nil => simp [showings, showFirst_apply]
      | cons face others =>
          simp [showings, showFirst_apply, induction, mem_faces]

theorem card_showings (dice : List Nat) : (showings dice).card = dice.prod := by
  induction dice with
  | nil => rfl
  | cons sides later induction => simp [showings, card_faces, induction]

theorem sum_showings_cons (sides : Nat) (later : List Nat)
    (value : List Int → Int) :
    ∑ faces ∈ showings (sides :: later), value faces =
      ∑ face ∈ faces sides, ∑ others ∈ showings later,
        value (face :: others) := by
  rw [showings, Finset.sum_map, Finset.sum_product]
  rfl

/-- The faces of a die are added as often as the others can show anything, and
those of the others as often as it has faces. -/
theorem two_mul_sum_showings (dice : List Nat) :
    2 * ∑ faces ∈ showings dice, faces.sum =
      dice.prod * ((dice.map Nat.succ).sum : Int) := by
  induction dice with
  | nil => rfl
  | cons sides later induction =>
      have apart : ∑ faces ∈ showings (sides :: later), faces.sum =
          later.prod * ∑ face ∈ faces sides, face +
            sides * ∑ others ∈ showings later, others.sum := by
        simp [sum_showings_cons, Finset.sum_add_distrib, card_faces,
          card_showings, Finset.mul_sum]
      calc 2 * ∑ faces ∈ showings (sides :: later), faces.sum =
            later.prod * (2 * ∑ face ∈ faces sides, face) +
              sides * (2 * ∑ others ∈ showings later, others.sum) := by
            rw [apart]
            ring
        _ = later.prod * (sides * (sides + 1)) +
              sides * (later.prod * ((later.map Nat.succ).sum : Int)) := by
            rw [two_mul_sum_faces, induction]
        _ = (sides :: later).prod *
              (((sides :: later).map Nat.succ).sum : Int) := by
            simp only [List.prod_cons, List.map_cons, List.sum_cons,
              Nat.cast_mul, Nat.cast_add, Nat.cast_succ]
            ring

end DiceRoller.Source
