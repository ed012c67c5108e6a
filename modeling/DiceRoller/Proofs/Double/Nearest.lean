import DiceRoller.Double
import Mathlib.Algebra.Order.Ring.Nat
import Mathlib.Data.Nat.Dist

/-!
# Nearest numbers

A rounded number is the nearest of those that have few enough significant
digits, and of two that are equally near it is the one whose last place is
even.  Hence a number that needs no rounding is kept.  Beyond a power of two
there is a gap, so that a number that is only a little beyond it goes back.
-/

namespace DiceRoller.Double

/-- The number has no more significant digits than there may be. -/
def Representable (number : Nat) : Prop :=
  ∃ digits place, digits < 2 ^ precision ∧ number = digits * 2 ^ place

/-- What rounding to the nearest number asks of the rounded one. -/
structure IsNearest (number rounded : Nat) : Prop where
  representable : Representable rounded
  dist_le : ∀ other, Representable other →
    Nat.dist rounded number ≤ Nat.dist other number
  even_of_tie : ∀ other, Representable other → other ≠ rounded →
    Nat.dist other number = Nat.dist rounded number →
    2 * lastPlace number ∣ rounded

theorem representable_mul_two_pow {digits : Nat} (few : digits ≤ 2 ^ precision)
    (place : Nat) : Representable (digits * 2 ^ place) := by
  rcases Nat.lt_or_eq_of_le few with fewer | rfl
  · exact ⟨digits, place, fewer, rfl⟩
  · exact ⟨1, precision + place, by decide, by rw [Nat.one_mul, Nat.pow_add]⟩

theorem representable_of_le {number : Nat} (small : number ≤ 2 ^ precision) :
    Representable number := by
  have whole := representable_mul_two_pow small 0
  rwa [Nat.pow_zero, Nat.mul_one] at whole

theorem representable_two_pow (place : Nat) : Representable (2 ^ place) := by
  have power := @representable_mul_two_pow 1 (by decide) place
  rwa [Nat.one_mul] at power

theorem lastPlace_pos (number : Nat) : 0 < lastPlace number :=
  Nat.two_pow_pos _

/-- The digits of a number in front of its last place are few enough. -/
theorem div_lastPlace_lt (number : Nat) :
    number / lastPlace number < 2 ^ precision := by
  apply Nat.div_lt_of_lt_mul
  have power : 2 ^ (number.log2 + 1) ≤
      2 ^ (number.log2 + 1 - precision) * 2 ^ precision := by
    rw [← Nat.pow_add]
    exact Nat.pow_le_pow_right (by decide) (by omega)
  exact Nat.lt_of_lt_of_le Nat.lt_log2_self power

/-- No number with few enough digits is between the two multiples of its last
place that a number is between. -/
theorem Representable.beside {other : Nat}
    (representable : Representable other) (number : Nat) :
    other ≤ number / lastPlace number * lastPlace number ∨
      (number / lastPlace number + 1) * lastPlace number ≤ other := by
  obtain ⟨digits, place, few, rfl⟩ := representable
  rcases Nat.lt_or_ge place (number.log2 + 1 - precision) with finer | coarser
  · -- All of its digits are behind the first one of the number.
    left
    have some : 0 < precision := by decide
    have positive : number ≠ 0 := by
      rintro rfl
      exact Nat.not_lt_zero _ finer
    have digitsBelow : digits * 2 ^ place ≤
        2 ^ (precision - 1) * lastPlace number := by
      calc digits * 2 ^ place ≤ 2 ^ precision * 2 ^ place :=
            Nat.mul_le_mul_right _ (Nat.le_of_lt few)
        _ = 2 ^ (precision + place) := (Nat.pow_add _ _ _).symm
        _ ≤ 2 ^ (precision - 1 + (number.log2 + 1 - precision)) :=
            Nat.pow_le_pow_right (by decide) (by omega)
        _ = 2 ^ (precision - 1) * lastPlace number := Nat.pow_add _ _ _
    have firstBelow : 2 ^ (precision - 1) * lastPlace number ≤ number := by
      calc 2 ^ (precision - 1) * lastPlace number =
            2 ^ (precision - 1 + (number.log2 + 1 - precision)) :=
            (Nat.pow_add _ _ _).symm
        _ = 2 ^ number.log2 := by
            congr 1
            omega
        _ ≤ number := Nat.log2_self_le positive
    have front := (Nat.le_div_iff_mul_le (lastPlace_pos number)).mpr firstBelow
    exact Nat.le_trans digitsBelow (Nat.mul_le_mul_right _ front)
  · have multiple : lastPlace number ∣ digits * 2 ^ place :=
      Nat.dvd_mul_left_of_dvd (Nat.pow_dvd_pow 2 coarser) digits
    obtain ⟨times, same⟩ := multiple
    rw [same, Nat.mul_comm _ times]
    rcases Nat.lt_or_ge (number / lastPlace number) times with more | fewer
    · exact .inr (Nat.mul_le_mul_right _ more)
    · exact .inl (Nat.mul_le_mul_right _ fewer)

theorem representable_nearest (number : Nat) :
    Representable (nearest number) := by
  have few := div_lastPlace_lt number
  simp only [nearest, nearestMultiple]
  split
  · exact representable_mul_two_pow (Nat.le_of_lt few) _
  · exact representable_mul_two_pow few _

/-- The two multiples of its last place that a number is between, and which of
them is the nearest. -/
theorem nearest_cases (number : Nat) :
    nearest number = number / lastPlace number * lastPlace number ∧
        2 * (number % lastPlace number) ≤ lastPlace number ∧
        (2 * (number % lastPlace number) = lastPlace number →
          number / lastPlace number % 2 = 0) ∨
      nearest number = (number / lastPlace number + 1) * lastPlace number ∧
        lastPlace number ≤ 2 * (number % lastPlace number) ∧
        (2 * (number % lastPlace number) = lastPlace number →
          (number / lastPlace number + 1) % 2 = 0) := by
  simp only [nearest, nearestMultiple]
  split
  · left
    refine ⟨rfl, ?_, ?_⟩ <;> omega
  · right
    refine ⟨rfl, ?_, ?_⟩ <;> omega

theorem two_mul_dvd_of_even {multiple : Nat} (even : multiple % 2 = 0)
    (place : Nat) : 2 * place ∣ multiple * place :=
  Nat.mul_dvd_mul_right (Nat.dvd_of_mod_eq_zero even) place

theorem isNearest_nearest (number : Nat) :
    IsNearest number (nearest number) := by
  have parts := Nat.div_add_mod' number (lastPlace number)
  have next := Nat.add_one_mul (number / lastPlace number) (lastPlace number)
  have rest := Nat.mod_lt number (lastPlace_pos number)
  refine ⟨representable_nearest number, ?_, ?_⟩
  · intro other representable
    have beside := representable.beside number
    unfold Nat.dist
    rcases nearest_cases number with ⟨same, near, _⟩ | ⟨same, near, _⟩ <;>
      rw [same] <;> omega
  · intro other representable different tie
    have beside := representable.beside number
    unfold Nat.dist at tie
    rcases nearest_cases number with ⟨same, near, even⟩ | ⟨same, near, even⟩
    · rw [same] at different tie ⊢
      exact two_mul_dvd_of_even (even (by omega)) _
    · rw [same] at different tie ⊢
      exact two_mul_dvd_of_even (even (by omega)) _

/-- Rounding goes beyond no number with few enough digits. -/
theorem Representable.nearest_le {limit number : Nat}
    (representable : Representable limit) (below : number ≤ limit) :
    nearest number ≤ limit := by
  have nearer := (isNearest_nearest number).dist_le limit representable
  unfold Nat.dist at nearer
  omega

/-- A number with few enough digits needs no rounding. -/
theorem Representable.nearest_eq {number : Nat}
    (representable : Representable number) : nearest number = number := by
  have near := (isNearest_nearest number).dist_le number representable
  rw [Nat.dist_self] at near
  exact Nat.eq_of_dist_eq_zero (Nat.eq_zero_of_le_zero near)

/-- Digits that are enough for a power of two leave a gap behind it. -/
theorem Representable.gap {number place : Nat}
    (representable : Representable number)
    (beyond : 2 ^ (precision - 1 + place) < number) :
    2 ^ (precision - 1 + place) + 2 ^ place ≤ number := by
  obtain ⟨digits, last, few, rfl⟩ := representable
  have reaches : 2 ^ (precision - 1 + place) < 2 ^ (precision + last) := by
    calc 2 ^ (precision - 1 + place) < digits * 2 ^ last := beyond
      _ ≤ 2 ^ precision * 2 ^ last := Nat.mul_le_mul_right _ (Nat.le_of_lt few)
      _ = 2 ^ (precision + last) := (Nat.pow_add _ _ _).symm
  have coarse : place ≤ last := by
    have exponents := (Nat.pow_lt_pow_iff_right (by decide)).mp reaches
    simp only [precision] at exponents
    omega
  have multiple : 2 ^ place ∣ digits * 2 ^ last :=
    Nat.dvd_mul_left_of_dvd (Nat.pow_dvd_pow 2 coarse) digits
  obtain ⟨times, same⟩ := multiple
  rw [same, Nat.mul_comm _ times, Nat.pow_add] at beyond ⊢
  rw [← Nat.add_one_mul]
  exact Nat.mul_le_mul_right _ (Nat.lt_of_mul_lt_mul_right beyond)

/-- A number that is beyond a power of two by less than half of the gap there
is rounded to the power. -/
theorem nearest_le_two_pow {number place step : Nat}
    (room : precision + step < place) (near : number ≤ 2 ^ place + 2 ^ step) :
    nearest number ≤ 2 ^ place := by
  obtain ⟨behind, rfl⟩ : ∃ behind, place = precision - 1 + behind :=
    Nat.exists_eq_add_of_le (by omega)
  have lower : step + 1 < behind := by
    simp only [precision] at room
    omega
  have half : 2 * 2 ^ step < 2 ^ behind := by
    rw [← Nat.pow_succ']
    exact Nat.pow_lt_pow_right (by decide) lower
  have rounded := isNearest_nearest number
  have nearer := rounded.dist_le _
    (representable_two_pow (precision - 1 + behind))
  unfold Nat.dist at nearer
  apply Nat.le_of_not_lt
  intro beyond
  have gap := rounded.representable.gap beyond
  omega

end DiceRoller.Double
