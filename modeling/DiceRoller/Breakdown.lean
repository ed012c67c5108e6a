import DiceRoller.Outcome
import DiceRoller.Roll.Basic

/-!
# Breakdowns

The outcome of a roll as it is handed out: the roll as a whole and, where it
joins two rolls, the breakdown of each side.
-/

namespace DiceRoller

structure Summary where
  expression : String
  faces : List Int
  bonus : Int
  total : Int
deriving DecidableEq, Repr

/-- A roll as a whole, with both sides and their totals if it has sides. -/
inductive Breakdown where
  | whole (summary : Summary)
  | parts (summary : Summary) (subtotals : Int × Int)
      (left right : Breakdown)
deriving DecidableEq, Repr

namespace Breakdown

/-- The roll as a whole at the root of the breakdown. -/
def summary : Breakdown → Summary
  | .whole summary => summary
  | .parts summary _ _ _ => summary

end Breakdown

def Roll.summarize (roll : Roll) (outcome : Outcome) : Summary :=
  { expression := roll.describe
    faces := outcome.faces
    bonus := outcome.bonus
    total := outcome.total }

/-- The breakdown has sides where both the roll and the outcome have sides. -/
def Roll.breakdown (roll : Roll) (outcome : Outcome) : Breakdown :=
  match roll, outcome with
  | .joined left right, .joined leftOutcome rightOutcome =>
      .parts (roll.summarize outcome)
        (leftOutcome.subtotals rightOutcome)
        (left.breakdown leftOutcome) (right.breakdown rightOutcome)
  | _, _ => .whole (roll.summarize outcome)

end DiceRoller
