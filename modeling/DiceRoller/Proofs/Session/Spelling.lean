import DiceRoller.Proofs.Session.Draws

/-!
# Orders with other texts

What an order is told, and what it does to the generators, depends on its text
by the rolls that the text spells.
-/

namespace DiceRoller

open Notation (rolls?)

/-- The order with another text. -/
def Order.retext (text : String) (order : Order) : Order :=
  { order with text }

/-- The report with another stamp and another text. -/
def Report.relabel (stamp : Stamp) (text : String) (report : Report) :
    Report :=
  { report with stamp, text }

theorem Request.Reported.relabel {request : Request} {provenance : Provenance}
    {stamp : Stamp} {faces : List Int} {report : Report}
    (reported : request.Reported provenance stamp faces report)
    (other : Stamp) (text : String) :
    (request.retext text).Reported provenance other faces
      (report.relabel other text) := by
  obtain ⟨results, told, rfl⟩ := reported
  exact ⟨results, told, rfl⟩

namespace Session

variable {σ : Type}

theorem select_retext (session : Session σ) (text : String) (order : Order) :
    session.select (order.retext text) = session.select order := rfl

variable [Source σ]

/-- Texts that spell the same rolls are answered alike, with the same dice. -/
theorem answer_retext {rolls : List Roll} {text other : String}
    (spelled : rolls? text = some rolls) (same : rolls? other = some rolls)
    (session : Session σ) (order : Order) (stamp otherStamp : Stamp) :
    let reply := session.answer stamp (order.retext text)
    let otherReply := session.answer otherStamp (order.retext other)
    reply.1.map (Report.relabel otherStamp other) = otherReply.1 ∧
      (∀ selection,
        reply.2.state? selection = otherReply.2.state? selection) ∧
      session.drawn stamp (order.retext text) =
        session.drawn otherStamp (order.retext other) := by
  intro reply otherReply
  have here := answered session stamp (order.retext text)
  have there := answered session otherStamp (order.retext other)
  have readings :=
    Request.readWithin_retext spelled same order.settings session.journal
  cases reading :
      (Request.readWithin order.settings text session.journal).1 with
  | error failure =>
      rw [reading] at readings
      obtain ⟨refused, unchanged⟩ := here.of_error reading
      obtain ⟨otherRefused, otherUnchanged⟩ := there.of_error readings.symm
      have drawn : session.drawn stamp (order.retext text) = [] :=
        drawn_of_error reading
      have otherDrawn : session.drawn otherStamp (order.retext other) = [] :=
        drawn_of_error readings.symm
      rw [refused, otherRefused, drawn, otherDrawn]
      refine ⟨rfl, fun selection => ?_, rfl⟩
      rw [unchanged, otherUnchanged]
  | ok request =>
      rw [reading] at readings
      obtain ⟨report, replied, reported, changed⟩ := here.of_ok reading
      obtain ⟨otherReport, otherReplied, otherReported, otherChanged⟩ :=
        there.of_ok readings.symm
      have drawn : session.drawn stamp (order.retext text) =
          Source.calls request.dice := drawn_of_ok reading
      have otherDrawn : session.drawn otherStamp (order.retext other) =
          Source.calls (request.retext other).dice := drawn_of_ok readings.symm
      rw [replied, otherReplied, drawn, otherDrawn]
      refine ⟨?_, fun selection => ?_, rfl⟩
      · exact congrArg Except.ok
          ((reported.relabel otherStamp other).unique otherReported)
      · rw [changed, otherChanged]
        rfl

end Session

end DiceRoller
