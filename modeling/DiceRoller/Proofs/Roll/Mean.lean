import DiceRoller.Proofs.Double.Sum
import DiceRoller.Proofs.Roll.Average
import Mathlib.Algebra.BigOperators.Group.List.Basic
import Mathlib.Algebra.Field.Rat
import Mathlib.Data.Rat.Cast.Defs
import Mathlib.Tactic.Ring

/-!
# Exact means

The mean total of a roll as a rational number, and as a number of halves.  The
average in double precision is this mean as long as the halves, signs left out,
are no more than there are significant digits for.
-/

namespace DiceRoller

/-- The number itself, if it is finite. -/
def Double.value? : Double → Option ℚ
  | .finite halves => some (halves / 2)
  | _ => none

namespace Term

def mean (term : Term) : ℚ :=
  term.count * (term.sides + 1) / 2 + term.bonus

/-- The mean as a number of halves. -/
def meanHalves (term : Term) : Int :=
  term.count * (term.sides + 1) + 2 * term.bonus

/-- The halves of the dice and of the bonus together, whatever its sign. -/
def extent (term : Term) : Nat :=
  term.count * (term.sides + 1) + 2 * term.bonus.natAbs

theorem natAbs_meanHalves_le (term : Term) :
    term.meanHalves.natAbs ≤ term.extent := by
  have both := Int.natAbs_add_le (term.count * (term.sides + 1))
    (2 * term.bonus)
  rwa [Int.natAbs_mul, Int.natAbs_mul] at both

theorem meanHalves_eq (term : Term) : (term.meanHalves : ℚ) = 2 * term.mean := by
  rw [meanHalves, mean]
  push_cast
  ring

end Term

namespace Roll

def mean (roll : Roll) : ℚ :=
  (roll.terms.map Term.mean).sum

def meanHalves (roll : Roll) : Int :=
  (roll.terms.map Term.meanHalves).sum

def extent (roll : Roll) : Nat :=
  (roll.terms.map Term.extent).sum

theorem meanHalves_eq (roll : Roll) :
    (roll.meanHalves : ℚ) = 2 * roll.mean := by
  rw [meanHalves, mean]
  induction roll.terms with
  | nil => simp
  | cons term later induction =>
      simp only [List.map_cons, List.sum_cons, Int.cast_add, mul_add,
        Term.meanHalves_eq, induction]

end Roll

theorem Term.average_of_extent_le {term : Term}
    (small : term.extent ≤ 2 ^ Double.precision) :
    term.average = .ok (.finite term.meanHalves) := by
  have dice : (term.count * (term.sides + 1) : Int).natAbs ≤
      2 ^ Double.precision := by
    rw [Int.natAbs_mul]
    exact Nat.le_trans (Nat.le_add_right _ _) small
  have bonus : (2 * term.bonus).natAbs ≤ 2 ^ Double.precision := by
    rw [Int.natAbs_mul]
    exact Nat.le_trans (Nat.le_add_left _ _) small
  have both : term.meanHalves.natAbs ≤ 2 ^ Double.precision :=
    Nat.le_trans term.natAbs_meanHalves_le small
  rw [average_eq_ok (Double.ofHalves_of_le dice) (Double.ofHalves_of_le bonus),
    ← meanHalves, Double.ofHalves_of_le both]

/-- What is still to be added keeps the sum within the halves that are not
rounded. -/
theorem Term.addAverages_of_extent_le {terms : List Term} {sum : Int}
    (small : sum.natAbs + (terms.map Term.extent).sum ≤
      2 ^ Double.precision) :
    Term.addAverages (.finite sum) terms =
      .ok (.finite (sum + (terms.map Term.meanHalves).sum)) := by
  induction terms generalizing sum with
  | nil => rw [addAverages_nil, List.map_nil, List.sum_nil, Int.add_zero]
  | cons term later induction =>
      rw [List.map_cons, List.sum_cons] at small ⊢
      have bounded := term.natAbs_meanHalves_le
      have triangle := Int.natAbs_add_le sum term.meanHalves
      rw [addAverages_cons, average_of_extent_le (by omega)]
      show addAverages (.finite sum + .finite term.meanHalves) later = _
      rw [Double.add_finite_of_le (by omega), induction (by omega), Int.add_assoc]

theorem Roll.average_of_extent_le {roll : Roll}
    (small : roll.extent ≤ 2 ^ Double.precision) :
    roll.average = .ok (.finite roll.meanHalves) := by
  have start : (0 : Int).natAbs + roll.extent ≤ 2 ^ Double.precision := by
    rwa [Int.natAbs_zero, Nat.zero_add]
  have added := Term.addAverages_of_extent_le start
  rwa [Int.zero_add] at added

theorem Roll.value?_meanHalves (roll : Roll) :
    (Double.finite roll.meanHalves).value? = some roll.mean := by
  show some ((roll.meanHalves : ℚ) / 2) = some roll.mean
  rw [meanHalves_eq, mul_div_cancel_left₀ roll.mean two_ne_zero]

/-- The average is the mean itself if the halves of all terms, the bonuses
without their signs, are few enough.  It is the same in any order. -/
theorem Roll.average_exact {roll : Roll} (small : roll.extent ≤ 2 ^ 53) :
    roll.average = .ok (.finite roll.meanHalves) ∧
      (Double.finite roll.meanHalves).value? = some roll.mean ∧
      ∀ other : Roll, other.terms.Perm roll.terms →
        other.average = roll.average := by
  refine ⟨average_of_extent_le small, roll.value?_meanHalves, ?_⟩
  intro other permuted
  have sameExtent : other.extent = roll.extent :=
    (permuted.map Term.extent).sum_eq
  have sameHalves : other.meanHalves = roll.meanHalves :=
    (permuted.map Term.meanHalves).sum_eq
  rw [average_of_extent_le small, average_of_extent_le (by rwa [sameExtent]),
    sameHalves]

/-- A mean that is no whole number, and a bonus that takes off most of the
other dice: together as many halves as there may be. -/
def widestTerms : Term × Term :=
  (.mk 1 (2 ^ 52 - 2) 0 Nat.one_pos (Nat.le_of_ble_eq_true rfl),
    .mk 1 (2 ^ 51) (-2 ^ 50) Nat.one_pos (Nat.two_pow_pos 51))

theorem Roll.average_exact_widest :
    let roll := joined (.single widestTerms.1) (.single widestTerms.2)
    let swapped := joined (.single widestTerms.2) (.single widestTerms.1)
    roll.extent = 2 ^ 53 ∧ swapped.terms.Perm roll.terms ∧
      roll.average = .ok (.finite (2 ^ 52)) ∧
      swapped.average = .ok (.finite (2 ^ 52)) := by
  intro roll swapped
  have extent : roll.extent = 2 ^ 53 := by decide +kernel
  have halves : roll.meanHalves = 2 ^ 52 := by decide +kernel
  have permuted : swapped.terms.Perm roll.terms := by
    rw [terms_joined, terms_joined]
    exact List.perm_append_comm
  obtain ⟨average, _, same⟩ := average_exact (Nat.le_of_eq extent)
  rw [halves] at average
  exact ⟨extent, permuted, average, (same swapped permuted).trans average⟩

end DiceRoller
