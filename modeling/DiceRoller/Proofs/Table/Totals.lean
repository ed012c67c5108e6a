import DiceRoller.Proofs.Random.Sums
import DiceRoller.Proofs.Table.Mean

/-!
# The totals of all throws

A roll is thrown to no less than one on each of its dice and to no more than
all sides of each, the bonuses added, and to every total in between.
-/

namespace DiceRoller

open Source (FaceOf Fair draws)

namespace Term

/-- The total with a one on every die. -/
def lowest (term : Term) : Int :=
  term.count + term.bonus

/-- The total with the last face of every die. -/
def highest (term : Term) : Int :=
  term.count * term.sides + term.bonus

end Term

namespace Roll

def lowest (roll : Roll) : Int :=
  (roll.terms.map Term.lowest).sum

def highest (roll : Roll) : Int :=
  (roll.terms.map Term.highest).sum

/-- What is told of every die and the bonuses can be summed term by term. -/
theorem sum_map_dice (roll : Roll) (value : Nat → Int) :
    (roll.dice.map value).sum + roll.bonus =
      (roll.terms.map fun term =>
        term.count * value term.sides + term.bonus).sum := by
  rw [dice, bonus]
  induction roll.terms with
  | nil => rfl
  | cons term later induction =>
      simp only [List.map_cons, List.sum_cons, ← induction, List.flatMap_cons,
        List.map_append, List.sum_append, Term.dice, List.map_replicate,
        List.sum_replicate, nsmul_eq_mul]
      ring

theorem lowest_eq (roll : Roll) :
    roll.lowest = roll.dice.length + roll.bonus := by
  have each := roll.sum_map_dice fun _ => 1
  simp only [List.map_const', List.sum_replicate, nsmul_eq_mul, mul_one]
    at each
  exact each.symm

theorem highest_eq (roll : Roll) :
    roll.highest = roll.dice.sum + roll.bonus := by
  have each := roll.sum_map_dice Nat.cast
  rw [← Nat.cast_list_sum] at each
  exact each.symm

end Roll

namespace Table

theorem total_of_shown {σ : Type} [Source σ] {roll : Roll} {table : Table σ}
    (shown : List.Forall₂ FaceOf (draws roll.dice table.source).1 roll.dice) :
    roll.lowest ≤ (table.throwRoll roll).1.total ∧
      (table.throwRoll roll).1.total ≤ roll.highest := by
  have between := Source.sum_of_shown shown
  rw [total_throwRoll, Roll.lowest_eq, Roll.highest_eq]
  omega

theorem exists_showing {roll : Roll} {total : Int}
    (least : roll.lowest ≤ total) (most : total ≤ roll.highest) :
    ∃ faces ∈ roll.showings, faces.sum + roll.bonus = total := by
  rw [Roll.lowest_eq] at least
  rw [Roll.highest_eq] at most
  have sumLeast : (roll.dice.length : Int) ≤ total - roll.bonus := by omega
  have sumMost : total - roll.bonus ≤ roll.dice.sum := by omega
  obtain ⟨faces, shown, sum⟩ :=
    Source.exists_shown_of_sum Roll.dice_pos sumLeast sumMost
  exact ⟨faces, Source.mem_showings.mpr shown, by omega⟩

/-- No fair source throws a roll to a total outside its lowest and its highest
one, and every total from the lowest to the highest one is that of some faces,
each of them one that its die has. -/
theorem totals_interval (roll : Roll) :
    (∀ {σ : Type} [Source σ] (table : Table σ), Fair table.source →
      roll.lowest ≤ (table.throwRoll roll).1.total ∧
        (table.throwRoll roll).1.total ≤ roll.highest) ∧
      ∀ (total : Int) (journal : Journal),
        roll.lowest ≤ total → total ≤ roll.highest →
        ∃ faces, List.Forall₂ FaceOf faces roll.dice ∧
          ((showing faces journal).throwRoll roll).1.faces = faces ∧
          ((showing faces journal).throwRoll roll).1.total = total := by
  constructor
  · intro σ _ table fair
    exact total_of_shown (fair.draws Roll.dice_pos)
  · intro total journal least most
    obtain ⟨faces, among, sum⟩ := exists_showing least most
    refine ⟨faces, Source.mem_showings.mp among, faces_showing among journal, ?_⟩
    rw [total_showing among journal, sum]

theorem totals_interval_threeTerms :
    let table : Table Generator :=
      { source := .twister (.ofSeed 5), journal := #[] }
    threeTerms.lowest = 3 ∧ threeTerms.highest = 23 ∧
      Fair table.source ∧
      3 ≤ (table.throwRoll threeTerms).1.total ∧
      (table.throwRoll threeTerms).1.total ≤ 23 ∧
      ∃ faces, List.Forall₂ FaceOf faces [6, 6, 4, 8] ∧
        ((showing faces #[]).throwRoll threeTerms).1.total = 22 := by
  intro table
  have lowest : threeTerms.lowest = 3 := by decide +kernel
  have highest : threeTerms.highest = 23 := by decide +kernel
  have dice : threeTerms.dice = [6, 6, 4, 8] := by decide +kernel
  have fair : Fair table.source := Generator.fair_twister _
  obtain ⟨bounded, reached⟩ := totals_interval threeTerms
  obtain ⟨least, most⟩ := bounded table fair
  obtain ⟨faces, shown, _, total⟩ := reached 22 #[]
    (by rw [lowest]; decide) (by rw [highest]; decide)
  rw [lowest] at least
  rw [highest] at most
  rw [dice] at shown
  exact ⟨lowest, highest, fair, least, most, faces, shown, total⟩

end Table

end DiceRoller
