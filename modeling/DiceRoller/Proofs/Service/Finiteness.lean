import DiceRoller.Proofs.Service.Description

/-!
# Descriptions are finite

Whatever text is described under whatever limits, the averages of its rolls
are finite numbers.
-/

namespace DiceRoller

theorem Roll.DescribedBy.within {roll : Roll} {entry : String × Double}
    (described : roll.DescribedBy entry) (inRange : roll.InRange) :
    entry.2.Within 117 := by
  obtain ⟨halves, averaged, _, few⟩ := inRange.exists_average
  exact ⟨halves, Except.ok.inj (described.average.symm.trans averaged), few⟩

theorem within_of_described {rolls : List Roll}
    {entries : List (String × Double)}
    (described : List.Forall₂ Roll.DescribedBy rolls entries)
    (inRange : ∀ roll ∈ rolls, roll.InRange) :
    ∀ entry ∈ entries, entry.2.Within 117 := by
  induction described with
  | nil => exact fun _ member => absurd member List.not_mem_nil
  | cons first _ induction =>
      obtain ⟨firstInRange, laterInRange⟩ := List.forall_mem_cons.mp inRange
      exact List.forall_mem_cons.mpr
        ⟨first.within firstInRange, induction laterInRange⟩

namespace Service

variable {σ : Type} [Source σ]

/-- A text is described by the rolls that it spells, each with an average that
is a finite number, or it is rejected as no request within the limits. -/
theorem reply_describe_finite (settings : Settings) (stamp : Stamp)
    (session : Session σ) (text : String) :
    let reading := (Request.read settings.limits text session.journal).1
    let answer := (reply settings stamp session (.describe text)).1
    (∀ overflow, answer ≠ .overflowed overflow) ∧
      ((∃ rejection, reading = .error (.rejected rejection) ∧
          answer = .rejected rejection) ∨
        ∃ request entries, reading = .ok request ∧
          answer = .description { text, rolls := entries } ∧
          List.Forall₂ Roll.DescribedBy request.rolls entries ∧
          ∀ entry ∈ entries, entry.2.Within 117) := by
  intro reading answer
  have described := described settings text session.journal
  change Described settings text answer at described
  generalize answer = answer at described ⊢
  cases described with
  | rejected anywhere =>
      refine ⟨fun _ => Reply.noConfusion, .inl ⟨_, anywhere _, rfl⟩⟩
  | described spelled admits described =>
      have read := Request.read_of_admits spelled admits session.journal
      have inRange := Notation.inRange_of_rolls? spelled
      exact ⟨fun _ => Reply.noConfusion,
        .inr ⟨_, _, read, rfl, described,
          within_of_described described inRange⟩⟩

end Service

end DiceRoller
