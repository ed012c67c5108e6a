/-!
# Halves in double precision

Averages of dice are whole numbers of halves, and so are all numbers on the
way to them.  A finite number is therefore kept as its number of halves; it is
rounded as any binary number of 53 significant digits is, since a factor of
two moves no digit into or out of the significant ones.
-/

namespace DiceRoller

/-- A double-precision number that is a whole number of halves, or the outcome
of an addition that has no such number. -/
inductive Double where
  | finite (halves : Int)
  | infinite (negative : Bool)
  | undefined
deriving DecidableEq, Repr

namespace Double

/-- The number of significant binary digits. -/
def precision : Nat := 53

/-- The number of halves that is too large for any finite number. -/
def bound : Nat := Nat.pow 2 1025

/-- The value of the last significant digit of a number. -/
def lastPlace (number : Nat) : Nat :=
  Nat.pow 2 (number.log2 + 1 - precision)

/-- The multiple of the unit that is nearest to the number; of two that are
equally near, the even multiple. -/
def nearestMultiple (unit number : Nat) : Nat :=
  let below := number / unit
  let excess := 2 * (number % unit)
  if excess < unit ∨ (excess = unit ∧ below % 2 = 0) then below * unit
  else (below + 1) * unit

/-- The nearest number with as many significant digits as there may be. -/
def nearest (number : Nat) : Nat :=
  nearestMultiple (lastPlace number) number

/-- The number of halves, rounded. -/
def ofHalves (halves : Int) : Double :=
  let size := nearest halves.natAbs
  if size < bound then .finite (halves.sign * Int.ofNat size)
  else .infinite (decide (halves < 0))

/-- The sum, rounded.  Infinities of different signs have no sum. -/
def add : Double → Double → Double
  | .finite left, .finite right => ofHalves (left + right)
  | .finite _, .infinite negative => .infinite negative
  | .infinite negative, .finite _ => .infinite negative
  | .infinite left, .infinite right =>
      if left = right then .infinite left else .undefined
  | .undefined, _ => .undefined
  | _, .undefined => .undefined

instance : Add Double := ⟨add⟩

end Double

end DiceRoller
