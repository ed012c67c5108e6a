import DiceRoller.Outcome
import DiceRoller.Roll.Basic

/-!
# Explanations

A text that tells how the total of a roll came about.
-/

namespace DiceRoller

/-- A roll and an outcome of which one is single and the other joined. -/
structure Mismatch where
  roll : Roll
  outcome : Outcome
deriving DecidableEq, Repr

namespace Mismatch

def message (mismatch : Mismatch) : String :=
  "Result " ++ mismatch.outcome.shown ++ " does not belong to " ++
    mismatch.roll.describe

end Mismatch

/-- The faces and the total of every term and the total of every join, or the
first place, left side first, where the nestings differ. -/
def Roll.explain (roll : Roll) (outcome : Outcome) :
    Except Mismatch String :=
  match roll, outcome with
  | .single _, .single faces _ =>
      .ok (roll.describe ++ ": rolls " ++ Text.bracketed (faces.map toString) ++
        " => " ++ toString outcome.total)
  | .joined left right, .joined leftOutcome rightOutcome =>
      match left.explain leftOutcome with
      | .error mismatch => .error mismatch
      | .ok leftText =>
          match right.explain rightOutcome with
          | .error mismatch => .error mismatch
          | .ok rightText =>
              .ok ("(" ++ leftText ++ ") & (" ++ rightText ++ ") => " ++
                toString outcome.total)
  | _, _ => .error { roll, outcome }

end DiceRoller
