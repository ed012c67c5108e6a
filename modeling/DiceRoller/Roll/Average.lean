import DiceRoller.Double
import DiceRoller.Roll.Basic

/-!
# Averages

The expected total of a roll, computed in double precision from left to right.
-/

namespace DiceRoller

/-- A number of a term that is beyond double precision. -/
inductive Overflow where
  | dice
  | bonus
deriving DecidableEq, Repr

namespace Overflow

def message : Overflow → String
  | .dice => "integer division result too large for a float"
  | .bonus => "int too large to convert to float"

end Overflow

/-- The number if it is finite. -/
def Double.finite? : Double → Option Int
  | .finite halves => some halves
  | _ => none

/-- The halves of the mean of the dice and of the bonus are rounded apart and
then added. -/
def Term.average (term : Term) : Except Overflow Double :=
  match (Double.ofHalves (term.count * (term.sides + 1))).finite? with
  | none => .error .dice
  | some dice =>
      match (Double.ofHalves (2 * term.bonus)).finite? with
      | none => .error .bonus
      | some bonus => .ok (Double.ofHalves (dice + bonus))

/-- Add the averages of the terms to a sum, one after the other. -/
def Term.addAverages (sum : Double) : List Term → Except Overflow Double
  | [] => .ok sum
  | term :: later =>
      match term.average with
      | .error overflow => .error overflow
      | .ok average => addAverages (sum + average) later

def Roll.average (roll : Roll) : Except Overflow Double :=
  Term.addAverages (.finite 0) roll.terms

end DiceRoller
