import DiceRoller.Random.Generator
import Mathlib.Data.List.Forall2

/-!
# Draws

The faces that a source shows for dice drawn one after the other, each of them
by a call for a number from one to its sides, and the state that it is left in.
Every throw of dice comes down to such draws.
-/

namespace DiceRoller.Source

variable {σ : Type} [Source σ]

/-- The faces of dice with the given numbers of sides, in order, and the state
after the last of them. -/
def draws : List Nat → σ → List Int × σ
  | [], state => ([], state)
  | sides :: later, state =>
      let (face, state) := draw 1 sides state
      let (faces, state) := draws later state
      (face :: faces, state)

@[simp] theorem draws_nil (state : σ) : draws [] state = ([], state) := rfl

theorem draws_append (first second : List Nat) (state : σ) :
    draws (first ++ second) state =
      ((draws first state).1 ++ (draws second (draws first state).2).1,
        (draws second (draws first state).2).2) := by
  induction first generalizing state with
  | nil => rfl
  | cons sides later induction => simp [draws, induction]

@[simp] theorem length_draws (dice : List Nat) (state : σ) :
    (draws dice state).1.length = dice.length := by
  induction dice generalizing state with
  | nil => rfl
  | cons sides later induction => simp [draws, induction]

def FaceOf (face : Int) (sides : Nat) : Prop :=
  1 ≤ face ∧ face ≤ sides

/-- Every die that is drawn from the state, or from one that it passes into as
dice are drawn, shows one of its faces. -/
def Fair (state : σ) : Prop :=
  ∀ before : List Nat, (∀ sides ∈ before, 0 < sides) →
    ∀ sides : Nat, 0 < sides →
      FaceOf (draw 1 sides (draws before state).2).1 sides

theorem Fair.draw {state : σ} (fair : Fair state) {sides : Nat}
    (positive : 0 < sides) : FaceOf (draw 1 sides state).1 sides :=
  fair [] (by simp) sides positive

theorem Fair.next {state : σ} (fair : Fair state) {sides : Nat}
    (positive : 0 < sides) : Fair (Source.draw 1 sides state).2 := by
  intro before allPositive
  refine fair (sides :: before) ?_
  intro other member
  rcases List.mem_cons.mp member with rfl | later
  · exact positive
  · exact allPositive other later

theorem Fair.draws {state : σ} (fair : Fair state) {dice : List Nat}
    (positive : ∀ sides ∈ dice, 0 < sides) :
    List.Forall₂ FaceOf (draws dice state).1 dice := by
  induction dice generalizing state with
  | nil => exact .nil
  | cons sides later induction =>
      have firstPositive := positive sides List.mem_cons_self
      have laterPositive : ∀ other ∈ later, 0 < other :=
        fun other member => positive other (List.mem_cons_of_mem _ member)
      exact .cons (fair.draw firstPositive)
        (induction (fair.next firstPositive) laterPositive)

theorem Fair.after_draws {state : σ} (fair : Fair state) {dice : List Nat}
    (positive : ∀ sides ∈ dice, 0 < sides) :
    Fair (Source.draws dice state).2 := by
  intro before allPositive sides sidesPositive
  have further := fair (dice ++ before)
    (List.forall_mem_append.mpr ⟨positive, allPositive⟩) sides sidesPositive
  rwa [draws_append] at further

theorem faceOf_of_mem {faces : List Int} {dice : List Nat}
    (shown : List.Forall₂ FaceOf faces dice) {sides : Nat}
    (equal : ∀ other ∈ dice, other = sides) :
    ∀ face ∈ faces, FaceOf face sides := by
  induction shown with
  | nil => simp
  | cons first _ induction =>
      have same := equal _ List.mem_cons_self
      rw [same] at first
      intro face member
      rcases List.mem_cons.mp member with rfl | later
      · exact first
      · exact induction
          (fun other member => equal other (List.mem_cons_of_mem _ member))
          face later

/-- Dice of one side leave a fair source no choice. -/
theorem Fair.draws_of_ones {state : σ} (fair : Fair state) {dice : List Nat}
    (ones : ∀ sides ∈ dice, sides = 1) :
    (Source.draws dice state).1 = List.replicate dice.length 1 := by
  have positive : ∀ sides ∈ dice, 0 < sides := fun sides member =>
    ones sides member ▸ Nat.zero_lt_one
  rw [List.eq_replicate_iff]
  refine ⟨length_draws dice state, fun face member => ?_⟩
  have shown := faceOf_of_mem (fair.draws positive) ones face member
  exact Int.le_antisymm shown.2 shown.1

/-- A property that draws keep makes a state fair if it makes every die show
one of its faces. -/
theorem fair_of_kept {holds : σ → Prop}
    (kept : ∀ (state : σ) (sides : Nat), holds state →
      holds (Source.draw 1 sides state).2)
    (faces : ∀ (state : σ) (sides : Nat), holds state → 0 < sides →
      FaceOf (Source.draw 1 sides state).1 sides)
    {state : σ} (here : holds state) : Fair state := by
  have passed : ∀ (before : List Nat) (state : σ),
      holds state → holds (Source.draws before state).2 := by
    intro before
    induction before with
    | nil => exact fun _ here => here
    | cons sides later induction =>
        exact fun state here => induction _ (kept state sides here)
  intro before _ sides positive
  exact faces _ sides (passed before state here) positive

end DiceRoller.Source

namespace DiceRoller.Generator

open Source (Fair fair_of_kept draws)

theorem draws_scripted {script : Script} {dice : List Nat}
    (enough : script.calls.size + dice.length ≤ script.faces.size) :
    (draws dice (scripted script)).1 =
      (script.faces.toList.drop script.calls.size).take dice.length := by
  induction dice generalizing script with
  | nil => simp
  | cons sides later induction =>
      rw [List.length_cons] at enough ⊢
      have inside : script.calls.size < script.faces.size := by omega
      have further : (script.nextFace 1 sides).2.calls.size + later.length ≤
          (script.nextFace 1 sides).2.faces.size := by
        simp only [Script.nextFace, Array.size_push]
        omega
      have face : (script.nextFace 1 sides).1 =
          script.faces[script.calls.size] := by
        simp only [Script.nextFace, Nat.mod_eq_of_lt inside]
        exact (Array.getElem_eq_getD 0).symm
      have front : script.faces.toList.drop script.calls.size =
          script.faces[script.calls.size] ::
            script.faces.toList.drop (script.calls.size + 1) :=
        List.drop_eq_getElem_cons inside
      have others := induction further
      rw [Script.nextFace, Array.size_push] at others
      rw [front, List.take_succ_cons, ← others, ← face]
      rfl

/-- A script that is as long as dice are many shows itself. -/
theorem draws_ofFaces {faces : List Int} {dice : List Nat}
    (each : faces.length = dice.length) :
    (draws dice (scripted (.ofFaces faces))).1 = faces := by
  rw [draws_scripted (by simp [Script.ofFaces, each])]
  simp [Script.ofFaces, ← each]

theorem fair_lowest : Fair lowest := by
  let holds : Generator → Prop := fun source => source = lowest
  refine @fair_of_kept _ _ holds ?_ ?_ _ rfl
  · rintro _ sides rfl
    rfl
  · rintro _ sides rfl positive
    show 1 ≤ (1 : Int) ∧ (1 : Int) ≤ sides
    omega

theorem fair_twister (state : Twister) : Fair (twister state) := by
  let holds : Generator → Prop := fun source =>
    ∃ state, source = twister state
  refine @fair_of_kept _ _ holds ?_ ?_ _ ⟨state, rfl⟩
  · rintro _ sides ⟨state, rfl⟩
    exact ⟨(state.nextBetween 1 sides).2, rfl⟩
  · rintro _ sides ⟨state, rfl⟩ positive
    exact Twister.nextBetween_mem (Int.ofNat_le.mpr positive) state

end DiceRoller.Generator
