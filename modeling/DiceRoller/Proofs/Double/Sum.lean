import DiceRoller.Proofs.Double.Nearest

/-!
# Sums that are rounded at each step

A sum whose exact numbers of halves are small enough is never rounded.  A sum
that is larger still cannot grow without end: at a power of two what is added
is too small to leave it behind.
-/

namespace DiceRoller.Double

-- The bound is too large a number to be computed as doubles are compared.
attribute [local irreducible] bound

/-- A finite number with no more halves, of either sign, than the power of two
with so many places. -/
def Within (place : Nat) (double : Double) : Prop :=
  ∃ halves, double = .finite halves ∧ halves.natAbs ≤ 2 ^ place

theorem two_pow_lt_bound {place : Nat} (few : place < 1025) :
    2 ^ place < bound := by
  unfold bound
  generalize 1025 = most at few ⊢
  exact Nat.pow_lt_pow_right (by decide) few

theorem ofHalves_of_nearest_lt {halves : Int}
    (finite : nearest halves.natAbs < bound) :
    ofHalves halves = .finite (halves.sign * nearest halves.natAbs) := by
  simp only [ofHalves, if_pos finite, Int.ofNat_eq_natCast]

/-- The second number of halves is the first one, rounded to the nearest. -/
def Rounds (exact rounded : Int) : Prop :=
  ∃ size, IsNearest exact.natAbs size ∧ rounded = exact.sign * size

theorem rounds_of_ofHalves {exact rounded : Int}
    (finite : ofHalves exact = .finite rounded) : Rounds exact rounded := by
  simp only [ofHalves] at finite
  split at finite
  · cases finite
    exact ⟨_, isNearest_nearest _, rfl⟩
  · cases finite

theorem rounds_of_add {left right sum : Int}
    (added : finite left + finite right = finite sum) :
    Rounds (left + right) sum :=
  rounds_of_ofHalves added

/-- As many halves as there are significant digits for are not rounded. -/
theorem ofHalves_of_le {halves : Int}
    (small : halves.natAbs ≤ 2 ^ precision) :
    ofHalves halves = .finite halves := by
  have same := (representable_of_le small).nearest_eq
  have finite : nearest halves.natAbs < bound := by
    rw [same]
    exact Nat.lt_of_le_of_lt small (two_pow_lt_bound (by decide))
  rw [ofHalves_of_nearest_lt finite, same, Int.sign_mul_natAbs]

theorem add_finite_of_le {left right : Int}
    (small : (left + right).natAbs ≤ 2 ^ precision) :
    finite left + finite right = finite (left + right) :=
  ofHalves_of_le small

theorem within_ofHalves {halves : Int} {place : Nat} (few : place < 1025)
    (rounded : nearest halves.natAbs ≤ 2 ^ place) :
    (ofHalves halves).Within place := by
  have finite := Nat.lt_of_le_of_lt rounded (two_pow_lt_bound few)
  have unsigned : halves.sign.natAbs ≤ 1 := by
    rw [Int.natAbs_sign]
    split <;> decide
  refine ⟨_, ofHalves_of_nearest_lt finite, ?_⟩
  calc (halves.sign * nearest halves.natAbs).natAbs =
        halves.sign.natAbs * nearest halves.natAbs := by
        rw [Int.natAbs_mul, Int.natAbs_natCast]
    _ ≤ 1 * nearest halves.natAbs := Nat.mul_le_mul_right _ unsigned
    _ = nearest halves.natAbs := Nat.one_mul _
    _ ≤ 2 ^ place := rounded

theorem within_ofHalves_of_le {halves : Int} {place : Nat}
    (few : place < 1025) (small : halves.natAbs ≤ 2 ^ place) :
    (ofHalves halves).Within place :=
  within_ofHalves few ((representable_two_pow place).nearest_le small)

/-- What is small enough against a power of two does not lift a sum beyond it. -/
theorem Within.add {sum added : Double} {place step : Nat}
    (within : sum.Within place) (small : added.Within step)
    (few : place < 1025) (room : precision + step < place) :
    (sum + added).Within place := by
  obtain ⟨left, rfl, leftFew⟩ := within
  obtain ⟨right, rfl, rightFew⟩ := small
  have near := Nat.le_trans (Int.natAbs_add_le left right)
    (Nat.add_le_add leftFew rightFew)
  exact within_ofHalves few (nearest_le_two_pow room near)

end DiceRoller.Double
