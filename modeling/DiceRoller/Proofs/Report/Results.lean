import DiceRoller.Proofs.Report.Explanation
import DiceRoller.Report

/-!
# Results of rolls

The rolls of a request are thrown one after the other, and each explains the
outcome that it came to.  An outcome is nested as its roll is, so that every
request is reported on.
-/

namespace DiceRoller

open Nested (SameShape)
open Source (draws draws_append)

namespace Roll

/-- What is handed out of the outcomes of rolls: of each its breakdown and its
explanation. -/
inductive Results : List Roll → List Outcome → List Result → Prop where
  | nil : Results [] [] []
  | cons {roll : Roll} {outcome : Outcome} {result : Result}
      {later : List Roll} {outcomes : List Outcome} {results : List Result} :
      roll.result outcome = .ok result → Results later outcomes results →
      Results (roll :: later) (outcome :: outcomes) (result :: results)

theorem result_eq_ok_iff {roll : Roll} {outcome : Outcome} {result : Result} :
    roll.result outcome = .ok result ↔
      result.breakdown = roll.breakdown outcome ∧
        roll.explain outcome = .ok result.explanation := by
  obtain ⟨breakdown, explanation⟩ := result
  rw [Roll.result]
  cases roll.explain outcome with
  | error mismatch => simp
  | ok text => simp [eq_comm]

theorem exists_result {roll : Roll} {outcome : Outcome}
    (same : SameShape roll outcome) :
    ∃ result, roll.result outcome = .ok result := by
  obtain ⟨text, explained⟩ := exists_text_iff.mpr same
  exact ⟨{ breakdown := roll.breakdown outcome, explanation := text },
    result_eq_ok_iff.mpr ⟨rfl, explained⟩⟩

namespace Results

variable {rolls others : List Roll} {outcomes otherOutcomes : List Outcome}
  {results otherResults : List Result}

theorem unique (told : Results rolls outcomes results)
    (again : Results rolls outcomes otherResults) : results = otherResults := by
  induction told generalizing otherResults with
  | nil =>
      cases again
      rfl
  | cons result _ induction =>
      cases again with
      | cons other later =>
          rw [Except.ok.inj (result.symm.trans other), induction later]

theorem breakdowns (told : Results rolls outcomes results) :
    results.map Result.breakdown = List.zipWith breakdown rolls outcomes := by
  induction told with
  | nil => rfl
  | cons result _ induction =>
      rw [List.map_cons, List.zipWith_cons_cons, induction,
        (result_eq_ok_iff.mp result).1]

theorem append (told : Results rolls outcomes results)
    (further : Results others otherOutcomes otherResults) :
    Results (rolls ++ others) (outcomes ++ otherOutcomes)
      (results ++ otherResults) := by
  induction told with
  | nil => exact further
  | cons result _ induction => exact .cons result induction

end Results

end Roll

/-- The report is that on the request when its dice show the faces in order. -/
def Request.Reported (request : Request) (provenance : Provenance)
    (stamp : Stamp) (faces : List Int) (report : Report) : Prop :=
  ∃ results,
    Roll.Results request.rolls (Roll.outcomes request.rolls faces) results ∧
      report = request.report provenance stamp results

namespace Request.Reported

variable {request : Request} {provenance : Provenance} {stamp other : Stamp}
  {faces : List Int} {report otherReport : Report}

theorem descriptions_eq (reported :
    request.Reported provenance stamp faces report) :
    report.descriptions = request.descriptions := by
  obtain ⟨_, _, rfl⟩ := reported
  rfl

theorem results_eq (reported :
    request.Reported provenance stamp faces report) :
    report.results =
      List.zipWith Roll.breakdown request.rolls
        (Roll.outcomes request.rolls faces) := by
  obtain ⟨_, told, rfl⟩ := reported
  exact told.breakdowns

theorem totals_eq (reported :
    request.Reported provenance stamp faces report) :
    report.totals = report.results.map fun result => result.summary.total := by
  obtain ⟨_, _, rfl⟩ := reported
  rfl

theorem restamp (reported : request.Reported provenance stamp faces report) :
    request.Reported provenance other faces { report with stamp := other } := by
  obtain ⟨results, told, rfl⟩ := reported
  exact ⟨results, told, rfl⟩

theorem unique (reported : request.Reported provenance stamp faces report)
    (again : request.Reported provenance stamp faces otherReport) :
    report = otherReport := by
  obtain ⟨results, told, rfl⟩ := reported
  obtain ⟨others, otherTold, rfl⟩ := again
  rw [told.unique otherTold]

end Request.Reported

namespace Table

variable {σ : Type} [Source σ]

/-- A roll explains what it was thrown to, and the next roll is thrown at the
table that it leaves. -/
theorem throwRolls_cons (roll : Roll) (later : List Roll) (table : Table σ) :
    ∃ result, roll.result (table.throwRoll roll).1 = .ok result ∧
      throwRolls (roll :: later) table =
        ((throwRolls later (table.throwRoll roll).2).1.map (result :: ·),
          (throwRolls later (table.throwRoll roll).2).2) := by
  obtain ⟨result, told⟩ :=
    Roll.exists_result (shows_throwRoll roll table).sameShape
  refine ⟨result, told, ?_⟩
  simp only [throwRolls, told]
  obtain ⟨_ | results, table⟩ := throwRolls later (table.throwRoll roll).2 <;>
    rfl

theorem throwRolls_eq (rolls : List Roll) (table : Table σ) :
    ∃ results,
      Roll.Results rolls
          (Roll.outcomes rolls
            (draws (rolls.flatMap Roll.dice) table.source).1) results ∧
        (throwRolls rolls table).1 = .ok results ∧
        (throwRolls rolls table).2.source =
          (draws (rolls.flatMap Roll.dice) table.source).2 := by
  induction rolls generalizing table with
  | nil => exact ⟨[], .nil, rfl, rfl⟩
  | cons roll later induction =>
      obtain ⟨outcome, source⟩ := throwRoll_eq roll table
      obtain ⟨result, told, step⟩ := throwRolls_cons roll later table
      obtain ⟨results, others, reply, left⟩ := induction (table.throwRoll roll).2
      rw [source] at others left
      rw [outcome] at told
      refine ⟨result :: results, ?_, ?_, ?_⟩
      · rw [List.flatMap_cons, Roll.outcomes, draws_append, Roll.take_draws,
          Roll.drop_draws]
        exact .cons told others
      · rw [step, reply]
        rfl
      · rw [step, List.flatMap_cons, draws_append]
        exact left

/-- Every request that is thrown is reported on, with the faces drawn for it. -/
theorem throwRequest_eq (request : Request) (provenance : Provenance)
    (stamp : Stamp) (table : Table σ) :
    ∃ report,
      request.Reported provenance stamp (draws request.dice table.source).1
          report ∧
        (table.throwRequest provenance stamp request).1 = .ok report ∧
        (table.throwRequest provenance stamp request).2.source =
          (draws request.dice table.source).2 := by
  obtain ⟨results, told, reply, left⟩ := throwRolls_eq request.rolls table
  refine ⟨request.report provenance stamp results, ⟨results, told, rfl⟩, ?_⟩
  unfold throwRequest
  generalize throwRolls request.rolls table = thrown at reply left
  obtain ⟨_, after⟩ := thrown
  subst reply
  exact ⟨rfl, left⟩

end Table

end DiceRoller
