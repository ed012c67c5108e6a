import DiceRoller.Proofs.Random.Showings
import DiceRoller.Proofs.Roll.Mean
import DiceRoller.Proofs.Table.Sequence
import Mathlib.Algebra.BigOperators.GroupWithZero.Finset
import Mathlib.Algebra.BigOperators.Group.List.Lemmas
import Mathlib.Tactic.LinearCombination

/-!
# The mean of all throws

The totals that a roll is thrown to, over all that its dice can show, have the
mean of the roll.  Nothing of this depends on how the roll is nested, since its
total is that of the faces and the bonuses.
-/

namespace DiceRoller

open Source (FaceOf draws)

namespace Roll

/-- All faces that the dice of a roll can show. -/
def showings (roll : Roll) : Finset (List Int) :=
  Source.showings roll.dice

theorem prod_dice (roll : Roll) :
    roll.dice.prod =
      (roll.terms.map fun term => term.sides ^ term.count).prod := by
  rw [dice]
  induction roll.terms with
  | nil => rfl
  | cons term later induction =>
      simp [Term.dice, induction]

theorem sum_dice (roll : Roll) :
    (roll.dice.map Nat.succ).sum =
      (roll.terms.map fun term => term.count * (term.sides + 1)).sum := by
  rw [dice]
  induction roll.terms with
  | nil => rfl
  | cons term later induction =>
      simp [Term.dice, induction]

theorem meanHalves_eq_add (roll : Roll) :
    roll.meanHalves = (roll.dice.map Nat.succ).sum + 2 * roll.bonus := by
  rw [sum_dice, meanHalves, bonus]
  induction roll.terms with
  | nil => rfl
  | cons term later induction =>
      simp only [List.map_cons, List.sum_cons, induction, Term.meanHalves]
      push_cast
      ring

theorem card_showings (roll : Roll) :
    roll.showings.card =
      (roll.terms.map fun term => term.sides ^ term.count).prod := by
  rw [showings, Source.card_showings, prod_dice]

theorem card_showings_ne_zero (roll : Roll) : roll.showings.card ≠ 0 := by
  rw [showings, Source.card_showings]
  apply List.prod_ne_zero
  intro among
  exact Nat.lt_irrefl 0 (dice_pos 0 among)

end Roll

namespace Table

/-- The table at which the dice show the faces in order. -/
def showing (faces : List Int) (journal : Journal) : Table Generator :=
  { source := .scripted (.ofFaces faces), journal }

theorem faces_showing {roll : Roll} {faces : List Int}
    (among : faces ∈ roll.showings) (journal : Journal) :
    ((showing faces journal).throwRoll roll).1.faces = faces := by
  rw [faces_throwRoll]
  exact Generator.draws_ofFaces (Source.mem_showings.mp among).length_eq

theorem total_showing {roll : Roll} {faces : List Int}
    (among : faces ∈ roll.showings) (journal : Journal) :
    ((showing faces journal).throwRoll roll).1.total =
      faces.sum + roll.bonus := by
  rw [Outcome.total_eq, faces_showing among, bonus_throwRoll]

theorem two_mul_sum_totals (roll : Roll) (journal : Journal) :
    2 * ∑ faces ∈ roll.showings,
        ((showing faces journal).throwRoll roll).1.total =
      roll.showings.card * roll.meanHalves := by
  calc 2 * ∑ faces ∈ roll.showings,
          ((showing faces journal).throwRoll roll).1.total =
        2 * ∑ faces ∈ roll.showings, (faces.sum + roll.bonus) := by
        rw [Finset.sum_congr rfl fun faces among => total_showing among journal]
    _ = 2 * ∑ faces ∈ roll.showings, faces.sum +
          roll.showings.card * (2 * roll.bonus) := by
        rw [Finset.sum_add_distrib, Finset.sum_const, nsmul_eq_mul]
        ring
    _ = roll.showings.card * roll.meanHalves := by
        rw [Roll.showings, Source.two_mul_sum_showings, Source.card_showings,
          Roll.meanHalves_eq_add]
        ring

/-- Over all faces that its dice can show, as many as the numbers of sides
multiply to, a roll is thrown to its mean. -/
theorem mean_of_totals (roll : Roll) (journal : Journal) :
    let thrown (faces : List Int) : Outcome :=
      ((showing faces journal).throwRoll roll).1
    (∀ faces, faces ∈ roll.showings ↔ List.Forall₂ FaceOf faces roll.dice) ∧
      (∀ faces ∈ roll.showings, (thrown faces).faces = faces) ∧
      roll.showings.card =
        (roll.terms.map fun term => term.sides ^ term.count).prod ∧
      2 * ∑ faces ∈ roll.showings, (thrown faces).total =
        roll.showings.card * roll.meanHalves ∧
      (∑ faces ∈ roll.showings, ((thrown faces).total : ℚ)) /
        roll.showings.card = roll.mean := by
  intro thrown
  have doubled := two_mul_sum_totals roll journal
  refine ⟨fun _ => Source.mem_showings, fun _ among => faces_showing among journal,
    roll.card_showings, doubled, ?_⟩
  have some : (roll.showings.card : ℚ) ≠ 0 :=
    Nat.cast_ne_zero.mpr roll.card_showings_ne_zero
  have halves : 2 * ∑ faces ∈ roll.showings, ((thrown faces).total : ℚ) =
      roll.showings.card * (2 * roll.mean) := by
    rw [← roll.meanHalves_eq]
    exact_mod_cast doubled
  rw [div_eq_iff some]
  linear_combination halves / 2

theorem mean_of_totals_threeTerms :
    [6, 1, 3, 8] ∈ threeTerms.showings ∧
      ((showing [6, 1, 3, 8] #[]).throwRoll threeTerms).1.faces =
        [6, 1, 3, 8] ∧
      threeTerms.showings.card = 6 ^ 2 * 4 * 8 ∧
      ∑ faces ∈ threeTerms.showings,
        ((showing faces #[]).throwRoll threeTerms).1.total =
        6 ^ 2 * 4 * 8 * 13 := by
  have dice : threeTerms.dice = [6, 6, 4, 8] := by decide +kernel
  have halves : threeTerms.meanHalves = 2 * 13 := by decide +kernel
  obtain ⟨showings, faces, card, sum, _⟩ := mean_of_totals threeTerms #[]
  have among : [6, 1, 3, 8] ∈ threeTerms.showings := by
    rw [showings, dice]
    simp [FaceOf]
  have many : threeTerms.showings.card = 6 ^ 2 * 4 * 8 := by
    rw [card]
    decide +kernel
  have twice : 2 * ∑ faces ∈ threeTerms.showings,
      ((showing faces #[]).throwRoll threeTerms).1.total =
      6 ^ 2 * 4 * 8 * (2 * 13) := by
    rw [sum, many, halves]
    rfl
  refine ⟨among, faces _ among, many, ?_⟩
  omega

end Table

end DiceRoller
