import DiceRoller.Proofs.Double.Sum
import DiceRoller.Proofs.Notation.RoundTrip
import DiceRoller.Roll.Average

/-!
# Averages of rolls in range

Numbers that can be read are far below those that double precision does not
reach, so every roll in range has an average.  It is finite for any number of
terms: the sum stays at a power of two against which the average of one more
term is too small to be seen.
-/

namespace DiceRoller

theorem Term.average_eq_ok {term : Term} {dice bonus : Int}
    (diceRounded :
      Double.ofHalves (term.count * (term.sides + 1)) = .finite dice)
    (bonusRounded : Double.ofHalves (2 * term.bonus) = .finite bonus) :
    term.average = .ok (Double.ofHalves (dice + bonus)) := by
  unfold average
  rw [diceRounded, bonusRounded]
  rfl

section Sum

-- The bound is too large a number to be computed as terms are compared.
attribute [local irreducible] Double.bound

theorem Term.addAverages_nil (sum : Double) :
    Term.addAverages sum [] = .ok sum := rfl

theorem Term.addAverages_cons (sum : Double) (term : Term)
    (later : List Term) :
    Term.addAverages sum (term :: later) =
      match term.average with
      | .error overflow => .error overflow
      | .ok average => Term.addAverages (sum + average) later := rfl

end Sum

/-- The halves of the average of a term: those of its dice and of its bonus are
rounded, and their sum is rounded again. -/
def Term.Averages (term : Term) (mean : Int) : Prop :=
  ∃ dice bonus, Double.Rounds (term.count * (term.sides + 1)) dice ∧
    Double.Rounds (2 * term.bonus) bonus ∧ Double.Rounds (dice + bonus) mean

/-- The averages of the terms are added to a sum from left to right, and each
sum is rounded. -/
inductive Term.AddUp : Int → List Term → Int → Prop where
  | nil {sum : Int} : AddUp sum [] sum
  | cons {sum mean next total : Int} {term : Term} {later : List Term} :
      term.Averages mean → Double.Rounds (sum + mean) next →
      AddUp next later total → AddUp sum (term :: later) total

theorem Term.InRange.exists_average {term : Term} (inRange : term.InRange) :
    ∃ mean, term.average = .ok (.finite mean) ∧ term.Averages mean ∧
      mean.natAbs ≤ 2 ^ 63 := by
  have dice : (term.count * (term.sides + 1) : Int).natAbs ≤ 2 ^ 62 := by
    have product := Nat.mul_le_mul inRange.count_le
      (Nat.succ_le_succ inRange.sides_le)
    rw [Int.natAbs_mul]
    exact Nat.le_trans product (by decide)
  have bonus : (2 * term.bonus).natAbs ≤ 2 ^ 62 := by
    have doubled := Nat.mul_le_mul_left 2 inRange.bonus_le
    rw [Int.natAbs_mul]
    exact Nat.le_trans doubled (by decide)
  obtain ⟨diceHalves, diceFinite, fewDice⟩ :=
    Double.within_ofHalves_of_le (by decide) dice
  obtain ⟨bonusHalves, bonusFinite, fewBonus⟩ :=
    Double.within_ofHalves_of_le (by decide) bonus
  have both : (diceHalves + bonusHalves).natAbs ≤ 2 ^ 63 := by
    have near := Int.natAbs_add_le diceHalves bonusHalves
    omega
  obtain ⟨mean, finite, few⟩ := Double.within_ofHalves_of_le (by decide) both
  refine ⟨mean, ?_, ⟨diceHalves, bonusHalves, ?_, ?_, ?_⟩, few⟩
  · rw [average_eq_ok diceFinite bonusFinite, finite]
  · exact Double.rounds_of_ofHalves diceFinite
  · exact Double.rounds_of_ofHalves bonusFinite
  · exact Double.rounds_of_ofHalves finite

theorem Term.exists_addAverages {terms : List Term}
    (inRange : ∀ term ∈ terms, term.InRange) {sum : Int}
    (few : sum.natAbs ≤ 2 ^ 117) :
    ∃ total, Term.addAverages (.finite sum) terms = .ok (.finite total) ∧
      Term.AddUp sum terms total ∧ total.natAbs ≤ 2 ^ 117 := by
  induction terms generalizing sum with
  | nil => exact ⟨sum, addAverages_nil _, .nil, few⟩
  | cons term later induction =>
      obtain ⟨mean, averaged, averages, small⟩ :=
        (inRange term List.mem_cons_self).exists_average
      have within : (Double.finite sum).Within 117 := ⟨sum, rfl, few⟩
      have added : (Double.finite mean).Within 63 := ⟨mean, rfl, small⟩
      -- An average is less than half of the last place at `2 ^ 117`.
      obtain ⟨next, rounded, nextFew⟩ :=
        within.add added (by decide) (by decide)
      obtain ⟨total, rest, addUp, totalFew⟩ := induction
        (fun other member => inRange other (List.mem_cons_of_mem _ member))
        nextFew
      refine ⟨total, ?_, ?_, totalFew⟩
      · rw [addAverages_cons, averaged]
        show addAverages (.finite sum + .finite mean) later = _
        rw [rounded, rest]
      · exact .cons averages (Double.rounds_of_add rounded) addUp

theorem Roll.InRange.exists_average {roll : Roll} (inRange : roll.InRange) :
    ∃ total, roll.average = .ok (.finite total) ∧
      Term.AddUp 0 roll.terms total ∧ total.natAbs ≤ 2 ^ 117 :=
  Term.exists_addAverages inRange (Nat.zero_le _)

end DiceRoller
