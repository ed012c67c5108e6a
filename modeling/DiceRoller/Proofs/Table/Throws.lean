import DiceRoller.Proofs.Random.Draws
import DiceRoller.Proofs.Roll.Nesting
import DiceRoller.Report

/-!
# Throws

A roll that is thrown at a table draws the dice of its terms from left to
right and shows their faces in its outcome.  Nothing of this depends on the
journal of the table.
-/

namespace DiceRoller

open Source (draws draws_append length_draws)

def Term.dice (term : Term) : List Nat :=
  List.replicate term.count term.sides

namespace Roll

/-- The numbers of sides of all dice of a roll, left side first. -/
def dice (roll : Roll) : List Nat :=
  roll.terms.flatMap Term.dice

theorem dice_single (term : Term) : (single term).dice = term.dice := by
  simp [dice]

theorem dice_joined (left right : Roll) :
    (joined left right).dice = left.dice ++ right.dice := by
  simp [dice]

theorem length_dice (roll : Roll) : roll.dice.length = roll.diceCount := by
  rw [dice, List.length_flatMap, diceCount]
  simp [Term.dice, List.sum_eq_foldr]

theorem dice_pos {roll : Roll} : ∀ sides ∈ roll.dice, 0 < sides := by
  intro sides member
  obtain ⟨term, _, among⟩ := List.mem_flatMap.mp member
  rw [List.eq_of_mem_replicate among]
  exact term.sides_pos

theorem flatMap_dice (rolls : List Roll) :
    rolls.flatMap dice = (rolls.flatMap terms).flatMap Term.dice :=
  List.flatMap_assoc.symm

/-- The outcome of a roll whose dice show the faces in order. -/
def outcome : Roll → List Int → Outcome
  | .single term, faces => .single faces term.bonus
  | .joined left right, faces =>
      .joined (left.outcome (faces.take left.diceCount))
        (right.outcome (faces.drop left.diceCount))

def outcomes : List Roll → List Int → List Outcome
  | [], _ => []
  | roll :: later, faces =>
      roll.outcome (faces.take roll.diceCount) ::
        outcomes later (faces.drop roll.diceCount)

theorem take_draws {σ : Type} [Source σ] (roll : Roll) (state : σ)
    (later : List Int) :
    ((draws roll.dice state).1 ++ later).take roll.diceCount =
      (draws roll.dice state).1 := by
  rw [← length_dice, List.take_left' (length_draws _ _)]

theorem drop_draws {σ : Type} [Source σ] (roll : Roll) (state : σ)
    (later : List Int) :
    ((draws roll.dice state).1 ++ later).drop roll.diceCount = later := by
  rw [← length_dice, List.drop_left' (length_draws _ _)]

/-- Rolls are thrown together as they are one part after the other, if the
second part goes on from the state that the first one leaves. -/
theorem outcomes_append {σ : Type} [Source σ] (first later : List Roll)
    (state : σ) :
    outcomes (first ++ later)
        (draws ((first ++ later).flatMap dice) state).1 =
      outcomes first (draws (first.flatMap dice) state).1 ++
        outcomes later
          (draws (later.flatMap dice)
            (draws (first.flatMap dice) state).2).1 := by
  induction first generalizing state with
  | nil => rfl
  | cons roll others induction =>
      simp only [List.cons_append, List.flatMap_cons, outcomes, draws_append,
        take_draws, drop_draws, induction]

end Roll

def Request.dice (request : Request) : List Nat :=
  request.rolls.flatMap Roll.dice

theorem Request.length_dice (request : Request) :
    request.dice.length = request.diceCount := by
  have each : List.length ∘ Roll.dice = Roll.diceCount :=
    funext Roll.length_dice
  rw [dice, List.length_flatMap, diceCount, ← each]
  rfl

theorem Request.dice_pos {request : Request} :
    ∀ sides ∈ request.dice, 0 < sides := by
  intro sides member
  obtain ⟨roll, _, among⟩ := List.mem_flatMap.mp member
  exact Roll.dice_pos sides among

namespace Table

variable {σ : Type} [Source σ]

theorem throwDice_eq (sides count : Nat) (shown : List Int)
    (table : Table σ) :
    (throwDice sides count shown table).1 =
        shown.reverse ++ (draws (.replicate count sides) table.source).1 ∧
      (throwDice sides count shown table).2.source =
        (draws (.replicate count sides) table.source).2 := by
  induction count generalizing shown table with
  | zero => simp [throwDice]
  | succ count induction =>
      have later := induction ((table.throwDie sides).1 :: shown)
        (table.throwDie sides).2
      simpa [throwDice, throwDie, List.replicate_succ, draws] using later

theorem throwTerm_eq (term : Term) (table : Table σ) :
    (table.throwTerm term).1 =
        .single (draws term.dice table.source).1 term.bonus ∧
      (table.throwTerm term).2.source = (draws term.dice table.source).2 := by
  obtain ⟨faces, source⟩ := throwDice_eq term.sides term.count [] table
  simp [throwTerm, write, Term.dice, faces, source]

theorem throwRoll_eq (roll : Roll) (table : Table σ) :
    (table.throwRoll roll).1 =
        roll.outcome (draws roll.dice table.source).1 ∧
      (table.throwRoll roll).2.source = (draws roll.dice table.source).2 := by
  induction roll generalizing table with
  | single term =>
      rw [Roll.dice_single]
      exact throwTerm_eq term table
  | joined left right leftInduction rightInduction =>
      -- The right side draws from the source that the left side leaves.
      obtain ⟨leftOutcome, leftSource⟩ := leftInduction table
      obtain ⟨rightOutcome, rightSource⟩ :=
        rightInduction (table.throwRoll left).2
      rw [leftSource] at rightOutcome rightSource
      simp only [throwRoll, leftOutcome, rightOutcome, rightSource,
        Roll.outcome, Roll.dice_joined, draws_append, Roll.take_draws,
        Roll.drop_draws, and_self]

end Table

end DiceRoller
