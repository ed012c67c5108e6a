import DiceRoller.Proofs.Request.Limits
import DiceRoller.Proofs.Roll.Mean
import DiceRoller.Service

/-!
# Descriptions of texts

A text that keeps the limits of a request is described by its rolls, each with
its own average; every other text is told why it is no such request.
-/

namespace DiceRoller

open Notation (rolls?)

/-- The entry has the description of the roll and its average: the rounded sum
of its averaged terms, and the mean itself as long as nothing is rounded. -/
structure Roll.DescribedBy (roll : Roll) (entry : String × Double) :
    Prop where
  description : entry.1 = roll.describe
  average : roll.average = .ok entry.2
  rounded : ∃ halves, entry.2 = .finite halves ∧
    Term.AddUp 0 roll.terms halves
  exact : roll.extent ≤ 2 ^ 53 → entry.2.value? = some roll.mean

theorem Roll.describedBy_of_average {roll : Roll} {halves : Int}
    (averaged : roll.average = .ok (.finite halves))
    (addUp : Term.AddUp 0 roll.terms halves) :
    roll.DescribedBy (roll.describe, .finite halves) where
  description := rfl
  average := averaged
  rounded := ⟨halves, rfl, addUp⟩
  exact small := by
    obtain rfl : halves = roll.meanHalves := Double.finite.inj
      (Except.ok.inj (averaged.symm.trans (average_of_extent_le small)))
    exact roll.value?_meanHalves

theorem descriptions_eq {rolls : List Roll} {entries : List (String × Double)}
    (described : List.Forall₂ Roll.DescribedBy rolls entries) :
    entries.map Prod.fst = rolls.map Roll.describe := by
  induction described with
  | nil => rfl
  | cons first _ induction =>
      rw [List.map_cons, List.map_cons, first.description, induction]

theorem Notation.inRange_of_rolls? {text : String} {rolls : List Roll}
    (spelled : rolls? text = some rolls) : ∀ roll ∈ rolls, roll.InRange := by
  obtain ⟨groups, found, rfl⟩ := Option.map_eq_some_iff.mp spelled
  exact fun roll member => (spelled_of_mem_rolls found member).2

namespace Request

theorem averages_of_inRange {rolls : List Roll}
    (inRange : ∀ roll ∈ rolls, roll.InRange) :
    ∃ entries, averages (rolls.zip (rolls.map Roll.describe)) = .ok entries ∧
      List.Forall₂ Roll.DescribedBy rolls entries := by
  induction rolls with
  | nil => exact ⟨[], rfl, .nil⟩
  | cons roll later induction =>
      obtain ⟨halves, first, addUp, _⟩ :=
        (inRange roll List.mem_cons_self).exists_average
      obtain ⟨entries, others, described⟩ := induction
        fun other member => inRange other (List.mem_cons_of_mem _ member)
      refine ⟨(roll.describe, .finite halves) :: entries, ?_,
        .cons (Roll.describedBy_of_average first addUp) described⟩
      simp only [List.map_cons, List.zip_cons_cons, averages, first, others]

end Request

namespace Service

/-- What the description of a text comes to, whatever the journal tells. -/
inductive Described (settings : Settings) (text : String) : Reply → Prop where
  | rejected {rejection : Rejection} :
      (∀ journal, (Request.read settings.limits text journal).1 =
        .error (.rejected rejection)) →
      Described settings text (.rejected rejection)
  | described {rolls : List Roll} {entries : List (String × Double)} :
      rolls? text = some rolls → settings.limits.Admits rolls →
      List.Forall₂ Roll.DescribedBy rolls entries →
      Described settings text (.description { text, rolls := entries })

theorem described (settings : Settings) (text : String) (journal : Journal) :
    Described settings text (describe settings text journal).1 := by
  have anywhere (other : Journal) :
      (Request.read settings.limits text other).1 =
        (Request.read settings.limits text journal).1 := by
    rw [Request.read_fst, Request.read_fst]
  unfold describe
  generalize Request.read settings.limits text journal = reading at anywhere
  obtain ⟨failure | request, later⟩ := reading
  · obtain ⟨rejection, rfl, _⟩ :=
      Request.exists_rejection_of_read (anywhere journal)
    exact .rejected anywhere
  · obtain ⟨rolls, spelled, admits, rfl⟩ :=
      Request.read_eq_ok_iff.mp (anywhere journal)
    obtain ⟨entries, averaged, described⟩ :=
      Request.averages_of_inRange (Notation.inRange_of_rolls? spelled)
    have whole : (Request.ofRolls text rolls).describe =
        .ok { text, rolls := entries } := by
      simp only [Request.describe, Request.ofRolls, averaged]
    simp only [whole]
    exact .described spelled admits described

end Service

end DiceRoller
