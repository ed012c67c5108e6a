/-!
# Rolls

A term is a number of equal dice with a fixed bonus; a roll joins terms into
one total.  How a roll is nested shows in its outcome, while its description
and its counts depend on the sequence of its terms alone.
-/

namespace DiceRoller

/-- Dice of equally many sides that are thrown together, and a fixed bonus. -/
structure Term where
  count : Nat
  sides : Nat
  bonus : Int
  count_pos : 0 < count
  sides_pos : 0 < sides
deriving DecidableEq, Repr

/-- Numbers that describe no dice. -/
structure InvalidDice where
  count : Int
  sides : Int
deriving DecidableEq, Repr

namespace InvalidDice

def message (invalid : InvalidDice) : String :=
  "[INVALID_DIE] Dice count and sides must be positive integers, got " ++
    toString invalid.count ++ "d" ++ toString invalid.sides ++
    ". Example: '3d6+2'."

end InvalidDice

namespace Term

/-- The term of the given numbers, if both counts are positive. -/
def ofNat? (count sides : Nat) (bonus : Int) : Option Term :=
  if positive : 0 < count ∧ 0 < sides then
    some { count, sides, bonus
           count_pos := positive.1, sides_pos := positive.2 }
  else none

/-- The term of the given numbers, or the counts that describe no dice. -/
def ofInt (count sides bonus : Int) : Except InvalidDice Term :=
  if positive : 0 < count ∧ 0 < sides then
    .ok { count := count.toNat, sides := sides.toNat, bonus
          count_pos := by omega, sides_pos := by omega }
  else .error { count, sides }

theorem ofInt_eq_ok_iff {count sides bonus : Int} {term : Term} :
    ofInt count sides bonus = .ok term ↔
      term.count = count ∧ term.sides = sides ∧ term.bonus = bonus := by
  unfold ofInt
  constructor
  · intro built
    split at built
    · next positive =>
        cases built
        exact ⟨Int.toNat_of_nonneg (Int.le_of_lt positive.1),
          Int.toNat_of_nonneg (Int.le_of_lt positive.2), rfl⟩
    · cases built
  · rintro ⟨rfl, rfl, rfl⟩
    have counted := term.count_pos
    have sided := term.sides_pos
    rw [dif_pos (by omega)]
    rfl

/-- The counts that describe no dice are told as they were given. -/
theorem ofInt_eq_error_iff {count sides bonus : Int} {invalid : InvalidDice} :
    ofInt count sides bonus = .error invalid ↔
      (count ≤ 0 ∨ sides ≤ 0) ∧ invalid = { count, sides } := by
  unfold ofInt
  split
  · next positive =>
      simp only [reduceCtorEq, false_iff]
      rintro ⟨nonpositive, _⟩
      omega
  · next invalidDice =>
      have nonpositive : count ≤ 0 ∨ sides ≤ 0 := by omega
      simp [nonpositive, eq_comm]

/-- Numbers without a sign describe the same term as with one. -/
theorem ofNat?_eq_some_iff_ofInt {count sides : Nat} {bonus : Int}
    {term : Term} :
    ofNat? count sides bonus = some term ↔
      ofInt count sides bonus = .ok term := by
  by_cases positive : 0 < count ∧ 0 < sides
  · have signed : (0 : Int) < count ∧ (0 : Int) < sides := by omega
    rw [ofNat?, ofInt, dif_pos positive, dif_pos signed]
    simp
  · have signed : ¬((0 : Int) < count ∧ (0 : Int) < sides) := by omega
    rw [ofNat?, ofInt, dif_neg positive, dif_neg signed]
    simp

/-- A bonus with its sign; no bonus is not written. -/
def bonusText (bonus : Int) : String :=
  if 0 < bonus then "+" ++ toString bonus
  else if bonus < 0 then toString bonus
  else ""

/-- The term in canonical notation. -/
def describe (term : Term) : String :=
  toString term.count ++ "d" ++ toString term.sides ++ bonusText term.bonus

end Term

/-- A term, or two rolls that are thrown one after the other and added. -/
inductive Roll where
  | single (term : Term)
  | joined (left right : Roll)
deriving DecidableEq, Repr

namespace Roll

/-- A chain of terms is joined from the right. -/
def chain (first : Term) : List Term → Roll
  | [] => .single first
  | second :: later => .joined (.single first) (chain second later)

/-- The number of terms and joins. -/
def size : Roll → Nat
  | .single _ => 1
  | .joined left right => left.size + right.size + 1

/-- The terms of the pending rolls, first roll first. -/
def termsOfPending : List Roll → List Term
  | [] => []
  | .single term :: pending => term :: termsOfPending pending
  | .joined left right :: pending => termsOfPending (left :: right :: pending)
termination_by pending => (pending.map size).foldr (· + ·) 0
decreasing_by
  · simp [size]
  · simp [size]; omega

/-- The terms from left to right. -/
def terms (roll : Roll) : List Term :=
  termsOfPending [roll]

/-- The roll in canonical notation; its nesting is not written. -/
def describe (roll : Roll) : String :=
  " & ".intercalate (roll.terms.map Term.describe)

def diceCount (roll : Roll) : Nat :=
  (roll.terms.map Term.count).foldr (· + ·) 0

def termCount (roll : Roll) : Nat :=
  roll.terms.length

end Roll

end DiceRoller
