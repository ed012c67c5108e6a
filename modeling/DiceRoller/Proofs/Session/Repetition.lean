import DiceRoller.Proofs.Notation.Repetition
import DiceRoller.Proofs.Session.Spelling

/-!
# Orders of repeated rolls

A number of times in front of a text is a shorter way to write copies of it:
limits are kept or exceeded by the same numbers, and the same dice are drawn.
-/

namespace DiceRoller.Session

open Notation (BeginsTimed copies groups? rolls? timed)

/-- A text behind a number of times stands for as many copies of it, from its
groups to the answer that it is given; but not if the number is out of range
or the text has a number of times already. -/
theorem answer_timed (text : String) (times : Nat) :
    (∀ roll, groups? text = some [{ times := 1, roll }] →
      'x' ∉ text.toList → 'X' ∉ text.toList →
      0 < times → times ≤ Cursor.largest →
      groups? (timed times text) = some [{ times, roll }] ∧
      rolls? (timed times text) = rolls? (copies times text) ∧
      (∀ limits journal,
        (Request.read limits (timed times text) journal).1.map
            (Request.retext (copies times text)) =
          (Request.read limits (copies times text) journal).1 ∧
        ∀ failure,
          (Request.read limits (copies times text) journal).1 =
            .error failure →
          ∃ rejection, failure = .rejected rejection) ∧
      ∀ {σ : Type} [Source σ] (session : Session σ) (order : Order)
        (stamp otherStamp : Stamp),
        let reply := session.answer stamp (order.retext (timed times text))
        let otherReply :=
          session.answer otherStamp (order.retext (copies times text))
        reply.1.map (Report.relabel otherStamp (copies times text)) =
            otherReply.1 ∧
          (∀ selection,
            reply.2.state? selection = otherReply.2.state? selection) ∧
          session.drawn stamp (order.retext (timed times text)) =
            session.drawn otherStamp (order.retext (copies times text)) ∧
          ∀ failure, reply.1 = .error failure →
            (∃ rejection, failure = .rejected rejection) ∧
            session.drawn stamp (order.retext (timed times text)) = [] ∧
            ∀ selection,
              reply.2.state? selection = session.state? selection) ∧
    (times = 0 ∨ Cursor.largest < times ∨ BeginsTimed text →
      groups? (timed times text) = none) := by
  refine ⟨?_, Notation.groups?_timed_eq_none⟩
  intro roll read small capital positive bounded
  have timedRolls := Notation.rolls?_timed read small capital positive bounded
  have copiedRolls := Notation.rolls?_copies read positive
  refine ⟨Notation.groups?_timed read small capital positive bounded,
    timedRolls.trans copiedRolls.symm, ?_, ?_⟩
  · intro limits journal
    refine ⟨Request.read_retext timedRolls copiedRolls limits journal, ?_⟩
    intro failure unread
    obtain ⟨rejection, rejected, _⟩ := Request.exists_rejection_of_read unread
    exact ⟨rejection, rejected⟩
  · intro σ _ session order stamp otherStamp reply otherReply
    obtain ⟨replies, states, drawn⟩ :=
      answer_retext timedRolls copiedRolls session order stamp otherStamp
    refine ⟨replies, states, drawn, ?_⟩
    intro failure refused
    have reading := (answer_eq_error_iff session.journal).mp refused
    exact ⟨exists_rejection refused, drawn_of_error reading,
      ((answered session stamp _).of_error reading).2⟩

theorem answer_timed_thrice :
    let text := "2d6-1"
    let roll : Roll := .single (.mk 2 6 (-1) (by decide) (by decide))
    let session := start
      [("script", Generator.scripted (.ofFaces [2, 5, 3]))] .lowest
    let stamp : Stamp := { identifier := "", time := "", nonce := "" }
    let order : Order :=
      { text, generator := some "script", settings := { maxDice := 5 } }
    let reply := session.answer stamp (order.retext (timed 3 text))
    let otherReply := session.answer stamp (order.retext (copies 3 text))
    groups? (timed 3 text) = some [{ times := 3, roll }] ∧
      reply.1.map (Report.relabel stamp (copies 3 text)) = otherReply.1 ∧
      reply.1 = .error (.rejected (.tooManyDice 6 5)) ∧
      session.drawn stamp (order.retext (timed 3 text)) = [] ∧
      groups? (timed 0 text) = none ∧ groups? (timed 3 "2xd6") = none := by
  intro text roll session stamp order reply otherReply
  have read : groups? text = some [{ times := 1, roll }] := by decide +kernel
  have again : BeginsTimed "2xd6" :=
    ⟨[.number 2, .mark 'x'], 2, [.mark 'd', .number 6],
      .times (.number (by decide)), by decide⟩
  have reading : (Request.readWithin order.settings (timed 3 text) #[]).1 =
      .error (.rejected (.tooManyDice 6 5)) := by decide +kernel
  obtain ⟨refused, _⟩ :=
    (answered session stamp (order.retext (timed 3 text))).of_error reading
  obtain ⟨repeated, _, _, answers⟩ := (answer_timed text 3).1 roll read
    (by decide) (by decide) (by decide) (by decide)
  obtain ⟨replies, _, _, undrawn⟩ := answers session order stamp stamp
  exact ⟨repeated, replies, refused, (undrawn _ refused).2.1,
    (answer_timed text 0).2 (.inl rfl),
    (answer_timed "2xd6" 3).2 (.inr (.inr again))⟩

end DiceRoller.Session
