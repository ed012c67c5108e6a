import DiceRoller.Proofs.Report.Place
import DiceRoller.Proofs.Roll.Nesting
import DiceRoller.Proofs.Table.Sequence

/-!
# Breakdowns are coherent

At every place of a breakdown the total is that of the faces and the bonus,
and where there are two sides, what is told of both together is put together
from what is told of each.  The roll and the outcome need not be nested alike.
-/

namespace DiceRoller

open Nested (part? sides?)

/-- What is told of two sides together is put together from what is told of
each of them. -/
structure Summary.Joins (summary left right : Summary) : Prop where
  expression : summary.expression =
    left.expression ++ " & " ++ right.expression
  faces : summary.faces = left.faces ++ right.faces
  bonus : summary.bonus = left.bonus + right.bonus
  total : summary.total = left.total + right.total

namespace Breakdown

/-- The totals of the two sides that are told with them. -/
def subtotals? : Breakdown → Option (Int × Int)
  | .whole _ => none
  | .parts _ subtotals _ _ => some subtotals

/-- The breakdown tells of the roll and of the outcome, and has sides with
their totals exactly if both of them have sides. -/
structure Coherent (breakdown : Breakdown) (roll : Roll) (outcome : Outcome) :
    Prop where
  expression : breakdown.summary.expression = roll.describe
  faces : breakdown.summary.faces = outcome.faces
  bonus : breakdown.summary.bonus = outcome.bonus
  total : breakdown.summary.total =
    breakdown.summary.faces.sum + breakdown.summary.bonus
  hasSides : (sides? breakdown).isSome ↔
    (sides? roll).isSome ∧ (sides? outcome).isSome
  hasSubtotals : breakdown.subtotals?.isSome ↔
    (sides? roll).isSome ∧ (sides? outcome).isSome
  subtotals : ∀ left right, sides? breakdown = some (left, right) →
    breakdown.subtotals? = some (left.summary.total, right.summary.total)
  joins : ∀ left right, sides? breakdown = some (left, right) →
    breakdown.summary.Joins left.summary right.summary

end Breakdown

namespace Roll

theorem joins_summarize (left right : Roll)
    (leftOutcome rightOutcome : Outcome) :
    ((joined left right).summarize (.joined leftOutcome rightOutcome)).Joins
      (left.summarize leftOutcome) (right.summarize rightOutcome) where
  expression := describe_joined left right
  faces := rfl
  bonus := rfl
  total := rfl

/-- Only a joined roll and a joined outcome give a breakdown sides. -/
theorem sides?_breakdown_eq_some {roll : Roll} {outcome : Outcome}
    {left right : Breakdown}
    (has : sides? (roll.breakdown outcome) = some (left, right)) :
    ∃ leftRoll rightRoll leftOutcome rightOutcome,
      roll = joined leftRoll rightRoll ∧
        outcome = .joined leftOutcome rightOutcome ∧
        left = leftRoll.breakdown leftOutcome ∧
        right = rightRoll.breakdown rightOutcome := by
  cases roll with
  | single term => cases outcome <;> cases has
  | joined leftRoll rightRoll =>
      cases outcome with
      | single faces bonus => cases has
      | joined leftOutcome rightOutcome =>
          cases has
          exact ⟨leftRoll, rightRoll, leftOutcome, rightOutcome, rfl, rfl, rfl,
            rfl⟩

theorem coherent_breakdown (roll : Roll) (outcome : Outcome) :
    (roll.breakdown outcome).Coherent roll outcome := by
  have summary := roll.summary_breakdown outcome
  refine {
    expression := congrArg Summary.expression summary
    faces := congrArg Summary.faces summary
    bonus := congrArg Summary.bonus summary
    total := ?_, hasSides := ?_, hasSubtotals := ?_, subtotals := ?_
    joins := ?_ }
  · rw [summary]
    exact outcome.total_eq
  · cases roll <;> cases outcome <;> simp [breakdown, sides?]
  · cases roll <;> cases outcome <;>
      simp [breakdown, sides?, Breakdown.subtotals?]
  · intro left right has
    obtain ⟨leftRoll, rightRoll, leftOutcome, rightOutcome, rfl, rfl, rfl, rfl⟩ :=
      sides?_breakdown_eq_some has
    rw [summary_breakdown, summary_breakdown]
    rfl
  · intro left right has
    obtain ⟨leftRoll, rightRoll, leftOutcome, rightOutcome, rfl, rfl, rfl, rfl⟩ :=
      sides?_breakdown_eq_some has
    rw [summary, summary_breakdown, summary_breakdown]
    exact joins_summarize leftRoll rightRoll leftOutcome rightOutcome

/-- A breakdown has parts where the roll and the outcome both have parts, and
each of them is coherent with what these have there. -/
theorem breakdown_coherent (roll : Roll) (outcome : Outcome) (place : Place) :
    ((part? (roll.breakdown outcome) place).isSome ↔
        (part? roll place).isSome ∧ (part? outcome place).isSome) ∧
      ∀ breakdown, part? (roll.breakdown outcome) place = some breakdown →
        ∃ rollPart outcomePart,
          part? roll place = some rollPart ∧
            part? outcome place = some outcomePart ∧
            breakdown.Coherent rollPart outcomePart := by
  rw [part?_breakdown]
  constructor
  · cases part? roll place <;> cases part? outcome place <;> simp
  · intro breakdown found
    obtain ⟨rollPart, outcomePart, rollFound, outcomeFound, rfl⟩ :=
      Option.map₂_eq_some_iff.mp found
    exact ⟨rollPart, outcomePart, rollFound, outcomeFound,
      coherent_breakdown rollPart outcomePart⟩

theorem breakdown_coherent_stray :
    let breakdown := Table.threeTerms.breakdown strayOutcome
    ∃ left first second,
      part? breakdown [.left] = some left ∧
        sides? left = some (first, second) ∧
        left.summary.Joins first.summary second.summary ∧
        left.subtotals? = some (8, 1) ∧
        left.summary.total = left.summary.faces.sum + left.summary.bonus ∧
        ¬ (part? breakdown [.left, .right, .left]).isSome := by
  intro breakdown
  obtain ⟨_, coherent⟩ :=
    breakdown_coherent Table.threeTerms strayOutcome [.left]
  obtain ⟨_, _, _, _, fits⟩ := coherent _ rfl
  obtain ⟨parts, _⟩ :=
    breakdown_coherent Table.threeTerms strayOutcome [.left, .right, .left]
  refine ⟨_, _, _, rfl, rfl, fits.joins _ _ rfl, fits.subtotals _ _ rfl,
    fits.total, ?_⟩
  intro deeper
  exact Bool.false_ne_true (parts.mp deeper).1

end Roll

end DiceRoller
