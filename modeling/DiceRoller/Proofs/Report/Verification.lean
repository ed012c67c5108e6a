import DiceRoller.Proofs.Notation.Image
import DiceRoller.Proofs.Report.Place
import DiceRoller.Proofs.Session.Answer
import Mathlib.Algebra.Ring.Int.Defs

/-!
# Reports can be verified

The descriptions of a report are read back as rolls whose terms are, one by
one, the terms that the leaves of the results record.
-/

namespace DiceRoller

open Source (FaceOf Fair)

/-- The summary of a throw of the term alone. -/
structure Summary.Records (summary : Summary) (term : Term) : Prop where
  expression : summary.expression = (Roll.single term).describe
  length : summary.faces.length = term.count
  faces : ∀ face ∈ summary.faces, FaceOf face term.sides
  bonus : summary.bonus = term.bonus
  total : summary.total = summary.faces.sum + summary.bonus

namespace Breakdown

/-- The summaries of the parts that have no parts, left side first. -/
def leaves : Breakdown → List Summary
  | .whole summary => [summary]
  | .parts _ _ left right => left.leaves ++ right.leaves

/-- The description is that of the breakdown, and is read back as one roll
whose terms the leaves record. -/
structure Verifies (breakdown : Breakdown) (description : String) : Prop where
  expression : breakdown.summary.expression = description
  reread : ∃ roll, Notation.rolls? description = some [roll] ∧
    List.Forall₂ Summary.Records breakdown.leaves roll.terms
  total : breakdown.summary.total =
    (breakdown.leaves.map Summary.total).sum

end Breakdown

namespace Roll

theorem records_single {term : Term} {faces : List Int}
    (shown : List.Forall₂ FaceOf faces term.dice) :
    ((single term).summarize (.single faces term.bonus)).Records term := by
  refine { expression := rfl, length := ?_, faces := ?_, bonus := rfl,
           total := rfl }
  · simpa [summarize, Outcome.faces, Term.dice] using shown.length_eq
  · exact Source.faceOf_of_mem shown fun _ => List.eq_of_mem_replicate

theorem records_leaves {roll : Roll} {faces : List Int}
    (shown : List.Forall₂ FaceOf faces roll.dice) :
    List.Forall₂ Summary.Records (roll.breakdown (roll.outcome faces)).leaves
      roll.terms := by
  induction roll generalizing faces with
  | single term =>
      rw [dice_single] at shown
      simpa [outcome, breakdown, Breakdown.leaves] using records_single shown
  | joined left right leftInduction rightInduction =>
      rw [dice_joined] at shown
      have leftShown := List.forall₂_take_append _ _ _ shown
      have rightShown := List.forall₂_drop_append _ _ _ shown
      rw [length_dice] at leftShown rightShown
      rw [terms_joined]
      exact List.rel_append (leftInduction leftShown)
        (rightInduction rightShown)

theorem total_leaves (roll : Roll) (faces : List Int) :
    (roll.outcome faces).total =
      ((roll.breakdown (roll.outcome faces)).leaves.map Summary.total).sum := by
  induction roll generalizing faces with
  | single term => simp [outcome, breakdown, Breakdown.leaves, summarize]
  | joined left right leftInduction rightInduction =>
      rw [outcome, Outcome.total, breakdown, Breakdown.leaves, List.map_append,
        List.sum_append, leftInduction, rightInduction]

theorem verifies_breakdown {roll : Roll} (nested : roll.RightNested)
    (inRange : roll.InRange) {faces : List Int}
    (shown : List.Forall₂ FaceOf faces roll.dice) :
    (roll.breakdown (roll.outcome faces)).Verifies roll.describe := by
  constructor
  · simp [summarize]
  · exact ⟨roll, Notation.rolls?_describe_single nested inRange,
      records_leaves shown⟩
  · simpa [summarize] using total_leaves roll faces

theorem verifies_breakdowns {rolls : List Roll}
    (nested : ∀ roll ∈ rolls, roll.RightNested)
    (inRange : ∀ roll ∈ rolls, roll.InRange) {faces : List Int}
    (shown : List.Forall₂ FaceOf faces (rolls.flatMap dice)) :
    List.Forall₂ Breakdown.Verifies
      (List.zipWith breakdown rolls (outcomes rolls faces))
      (rolls.map describe) := by
  induction rolls generalizing faces with
  | nil => exact .nil
  | cons roll later induction =>
      rw [List.flatMap_cons] at shown
      have firstShown := List.forall₂_take_append _ _ _ shown
      have laterShown := List.forall₂_drop_append _ _ _ shown
      rw [length_dice] at firstShown laterShown
      refine .cons ?_ (induction ?_ ?_ laterShown)
      · exact verifies_breakdown (nested roll List.mem_cons_self)
          (inRange roll List.mem_cons_self) firstShown
      · exact fun other member => nested other (List.mem_cons_of_mem _ member)
      · exact fun other member => inRange other (List.mem_cons_of_mem _ member)

end Roll

namespace Session

variable {σ : Type} [Source σ]

/-- A report whose dice are drawn from a fair source can be verified from what
it tells alone. -/
theorem answer_verifies (session : Session σ) (stamp : Stamp) (order : Order)
    (fair : Fair (session.generator (session.select order))) {report : Report}
    (accepted : (session.answer stamp order).1 = .ok report) :
    report.results.length = report.descriptions.length ∧
      report.totals.length = report.descriptions.length ∧
      0 < report.descriptions.length ∧
      report.totals = report.results.map (fun result =>
        result.summary.total) ∧
      List.Forall₂ Breakdown.Verifies report.results report.descriptions := by
  have answered := answered session stamp order
  rw [accepted] at answered
  cases answered with
  | accepted reading reported _ =>
      obtain ⟨groups, read, rfl⟩ := Request.readWithin_eq_ok (reading #[])
      have positive : ∀ sides ∈ (Request.ofGroups order.text groups).dice,
          0 < sides := by
        intro sides member
        obtain ⟨roll, _, among⟩ := List.mem_flatMap.mp member
        exact Roll.dice_pos sides among
      have verified := Roll.verifies_breakdowns
        (fun roll member => (Notation.spelled_of_mem_rolls read member).1)
        (fun roll member => (Notation.spelled_of_mem_rolls read member).2)
        (fair.draws positive)
      have length := verified.length_eq
      rw [reported.totals_eq, reported.results_eq, reported.descriptions_eq]
      refine ⟨length, ?_, ?_, rfl, verified⟩
      · exact (List.length_map _).trans length
      · apply List.length_pos_iff.mpr
        intro none
        exact Notation.rolls_ne_nil read (List.map_eq_nil_iff.mp none)

def seededOrder : Order :=
  { text := "2x 2d6+1 & d4", generator := none
    settings := { seed := some 5 } }

theorem answer_verifies_seeded :
    let stamp : Stamp := { identifier := "", time := "", nonce := "" }
    let session : Session Generator := start [] .lowest
    Fair (session.generator (session.select seededOrder)) ∧
      ∃ report, (session.answer stamp seededOrder).1 = .ok report ∧
        0 < report.descriptions.length ∧
        List.Forall₂ Breakdown.Verifies report.results
          report.descriptions := by
  intro stamp session
  have fair : Fair (session.generator (session.select seededOrder)) :=
    Generator.fair_twister (Twister.ofSeed 5)
  have accepted : (Request.readWithin seededOrder.settings seededOrder.text
      #[]).1.isOk = true := by decide +kernel
  have answered := answered session stamp seededOrder
  generalize replied : (session.answer stamp seededOrder).1 = reply
    at answered
  refine ⟨fair, ?_⟩
  cases answered with
  | rejected refused _ =>
      rw [refused #[]] at accepted
      cases accepted
  | accepted _ _ _ =>
      obtain ⟨_, _, nonempty, _, verified⟩ :=
        answer_verifies session stamp seededOrder fair replied
      exact ⟨_, rfl, nonempty, verified⟩

end Session

end DiceRoller
