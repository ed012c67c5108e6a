import DiceRoller.Proofs.Report.Place
import DiceRoller.Proofs.Request.Exactness
import DiceRoller.Proofs.Session.Draws
import DiceRoller.Proofs.Table.Trail

/-!
# The trail of an order

The journal of a session tells of an order that is answered each die, each
term and at last the whole report; of one that is rejected it tells no more
than that its text spells no rolls.
-/

namespace DiceRoller

open Source (draws draws_append)

/-- An event as a line of a log: how much attention it asks for, the activity
it belongs to and its text. -/
def Event.line (event : Event) : Level × Activity × String :=
  (event.level, event.activity, event.message)

namespace Roll

theorem faces_outcome_draws {σ : Type} [Source σ] (roll : Roll) (state : σ) :
    (roll.outcome (draws roll.dice state).1).faces =
      (draws roll.dice state).1 := by
  let table : Table σ := { source := state, journal := #[] }
  rw [← (Table.throwRoll_eq roll table).1]
  exact Table.faces_throwRoll roll table

theorem faces_breakdowns_draws {σ : Type} [Source σ] (rolls : List Roll)
    (state : σ) :
    (List.zipWith breakdown rolls
        (outcomes rolls (draws (rolls.flatMap dice) state).1)).flatMap
          (fun result => result.summary.faces) =
      (draws (rolls.flatMap dice) state).1 := by
  induction rolls generalizing state with
  | nil => rfl
  | cons roll later induction =>
      simp only [List.flatMap_cons, draws_append, outcomes, take_draws,
        drop_draws, List.zipWith_cons_cons, summary_breakdown, summarize,
        faces_outcome_draws, induction]

end Roll

/-- The events of an order that is answered, whose text spells the rolls and
whose dice show the faces. -/
structure Report.Logged (report : Report) (rolls : List Roll)
    (faces : List Int) (events : List Event) : Prop where
  descriptions : report.descriptions = rolls.map Roll.describe
  results : report.results.flatMap (fun result => result.summary.faces) = faces
  shown : events.filterMap Event.face? = faces
  complete : events = Term.events (rolls.flatMap Roll.terms) faces ++
    [.answered report.stamp.identifier report.descriptions report.totals]
  lines : events.map Event.line =
    Term.trail
      (fun sides face => (.debug, .rolling,
        "Rolled d" ++ toString sides ++ ": " ++ toString face))
      (fun term total => (.debug, .rolling,
        term.describe ++ " => " ++ toString total))
      (rolls.flatMap Roll.terms) faces ++
    [(.info, .rolling, "Request " ++ report.stamp.identifier ++ " rolled " ++
      Text.bracketed (report.descriptions.map Text.quoted) ++ " => " ++
      Text.bracketed (report.totals.map toString))]

/-- The events of an order that is rejected: one if its text spells no rolls
and is not blank, and none otherwise. -/
structure Rejection.Logged (rejection : Rejection) (text : String)
    (events : List Event) : Prop where
  blank : (∀ character ∈ text.toList, Text.isBlank character = true) →
    events = []
  unreadable : (¬ ∀ character ∈ text.toList, Text.isBlank character = true) →
    Notation.groups? text = none →
    events = [.refused text] ∧
      events.map Event.line =
        [(.debug, .reading, "Rejected dice notation " ++ Text.quoted text)]
  readable : Notation.groups? text ≠ none → events = []
  limited : ¬ Text.Opens "[UNPARSEABLE_INPUT]" rejection.message → events = []

theorem Request.readingEvents_of_groups? {text : String} {groups : List Group}
    (read : Notation.groups? text = some groups) : readingEvents text = [] := by
  rw [readingEvents, if_neg]
  rintro ⟨_, unread⟩
  cases read.symm.trans unread

theorem Request.logged_readingEvents {settings : Settings} {text : String}
    {journal : Journal} {rejection : Rejection}
    (rejected : (readWithin settings text journal).1 =
      .error (.rejected rejection)) :
    rejection.Logged text (readingEvents text) := by
  have readable (read : Notation.groups? text ≠ none) :
      readingEvents text = [] := by
    obtain ⟨groups, found⟩ := Option.ne_none_iff_exists'.mp read
    exact readingEvents_of_groups? found
  refine { blank := ?_, unreadable := ?_, readable, limited := ?_ }
  · intro blank
    rw [readingEvents, if_neg]
    rintro ⟨visible, _⟩
    exact visible (Text.trim_eq_nil_iff.mpr blank)
  · intro visible unread
    rw [readingEvents, if_pos ⟨mt Text.trim_eq_nil_iff.mp visible, unread⟩]
    exact ⟨rfl, rfl⟩
  · intro limited
    apply readable
    intro unread
    have refused := read_of_none unread settings.limits journal
    rcases readWithin_eq_error_iff.mp rejected with same | ⟨_, accepted, _⟩
    · rw [refused] at same
      cases same
      exact limited (opens_message_refusal text)
    · cases refused.symm.trans accepted

theorem Request.logged_report {σ : Type} [Source σ] {text : String}
    {groups : List Group} {provenance : Provenance} {stamp : Stamp}
    {report : Report} (state : σ) :
    let request := ofGroups text groups
    let faces := (draws request.dice state).1
    request.Reported provenance stamp faces report →
      report.Logged request.rolls faces
        (Term.events (request.rolls.flatMap Roll.terms) faces ++
          [.answered stamp.identifier report.descriptions report.totals]) := by
  intro request faces reported
  have told : (Term.events (request.rolls.flatMap Roll.terms)
      faces).filterMap Event.face? = faces := by
    simp only [faces, Request.dice, Roll.flatMap_dice]
    exact Term.filterMap_events_draws _ state
  have results := reported.results_eq
  obtain ⟨_, _, rfl⟩ := reported
  refine { descriptions := rfl, results := ?_, shown := ?_, complete := rfl
           lines := ?_ }
  · rw [results]
    exact Roll.faces_breakdowns_draws request.rolls state
  · rw [List.filterMap_append, told]
    exact List.append_nil faces
  · rw [List.map_append, Term.events, Term.map_trail]
    rfl

namespace Session

variable {σ : Type} [Source σ] {session : Session σ} {stamp : Stamp}
  {order : Order}

theorem journal_answer_of_error {failure : Failure}
    (unread : (Request.readWithin order.settings order.text
      session.journal).1 = .error failure) :
    (session.answer stamp order).2.journal.toList =
      session.journal.toList ++ Request.readingEvents order.text := by
  obtain ⟨journal, read, written⟩ := read_eq session order
  rw [answer, read, unread]
  exact written

theorem journal_answer_of_ok {request : Request} {report : Report}
    (read : (Request.readWithin order.settings order.text
      session.journal).1 = .ok request)
    (replied : (session.answer stamp order).1 = .ok report) :
    (session.answer stamp order).2.journal.toList =
      session.journal.toList ++ Request.readingEvents order.text ++
        (Term.events (request.rolls.flatMap Roll.terms)
            (draws request.dice
              (session.generator (session.select order))).1 ++
          [.answered stamp.identifier report.descriptions report.totals]) := by
  obtain ⟨journal, reading, written⟩ := read_eq session order
  rw [answer, reading, read] at replied ⊢
  -- The request is thrown by the session in which its text is read.
  let reached : Session σ := { session with journal }
  rw [← written, ← generator_write session journal]
  exact Table.journal_throwRequest request
    (reached.provenance (session.select order)) stamp
    (reached.table (session.select order)) replied

/-- What is written down of an order follows what was written down before it.
If the order is answered, each die of its text is told with the face that was
drawn for it, each term with its total after its dice, and last the report; the
faces are those of the results.  If it is not, its text is rejected, and nothing
is told of dice. -/
theorem answer_logged (session : Session σ) (stamp : Stamp) (order : Order) :
    let reply := session.answer stamp order
    ∃ events,
      reply.2.journal.toList = session.journal.toList ++ events ∧
        (∀ report, reply.1 = .ok report →
          ∃ rolls, Notation.rolls? order.text = some rolls ∧
            report.Logged rolls
              (draws (rolls.flatMap Roll.dice)
                (session.generator (session.select order))).1 events) ∧
        ∀ failure, reply.1 = .error failure →
          ∃ rejection, failure = .rejected rejection ∧
            rejection.Logged order.text events := by
  intro reply
  have answered := answered session stamp order
  cases reading : (Request.readWithin order.settings order.text
      session.journal).1 with
  | error failure =>
      obtain ⟨refused, _⟩ := answered.of_error reading
      refine ⟨_, journal_answer_of_error reading, ?_, ?_⟩
      · intro report accepted
        cases accepted.symm.trans refused
      · intro told rejected
        obtain rfl : told = failure :=
          Except.error.inj (rejected.symm.trans refused)
        obtain ⟨rejection, rfl⟩ := exists_rejection rejected
        exact ⟨rejection, rfl, Request.logged_readingEvents reading⟩
  | ok request =>
      obtain ⟨report, replied, reported, _⟩ := answered.of_ok reading
      obtain ⟨groups, found, rfl⟩ := Request.readWithin_eq_ok reading
      have written := journal_answer_of_ok reading replied
      rw [Request.readingEvents_of_groups? found, List.append_nil] at written
      refine ⟨_, written, ?_, ?_⟩
      · intro again accepted
        obtain rfl : again = report :=
          Except.ok.inj (accepted.symm.trans replied)
        refine ⟨groups.flatMap Group.rolls, ?_,
          Request.logged_report _ reported⟩
        rw [Notation.rolls?, found]
        rfl
      · intro failure rejected
        cases rejected.symm.trans replied

theorem answer_logged_scripted :
    let stamp : Stamp := { identifier := "1f", time := "", nonce := "" }
    let session := start
      [("script", Generator.scripted (.ofFaces [2, 5, 3]))] .lowest
    let order := joinedOrder "2d6+1 & d4"
    let dangling := joinedOrder "2d6+1 &"
    let first : Term := .mk 2 6 1 (by decide) (by decide)
    let second : Term := .mk 1 4 0 (by decide) (by decide)
    (∃ report, (session.answer stamp order).1 = .ok report ∧
      (session.answer stamp order).2.journal.toList =
        [.shown 6 2, .shown 6 5, .thrown first 8, .shown 4 3, .thrown second 3,
          .answered report.stamp.identifier report.descriptions
            report.totals]) ∧
      (session.answer stamp dangling).2.journal.toList =
        [.refused "2d6+1 &"] := by
  intro stamp session order dangling first second
  let roll : Roll := .joined (.single first) (.single second)
  let request : Request := .ofRolls "2d6+1 & d4" [roll]
  have read : (Request.readWithin order.settings order.text #[]).1 =
      .ok request := by decide +kernel
  have unread : (Request.readWithin dangling.settings dangling.text #[]).1 =
      .error (.rejected (.unreadable "2d6+1 &")) := by decide +kernel
  have spelled : Notation.rolls? order.text = some [roll] := by decide +kernel
  have unspelled : Notation.groups? dangling.text = none := by decide +kernel
  have thrown : Term.events ([roll].flatMap Roll.terms)
      (draws ([roll].flatMap Roll.dice)
        (session.generator (session.select order))).1 =
      [.shown 6 2, .shown 6 5, .thrown first 8, .shown 4 3,
        .thrown second 3] := by decide +kernel
  obtain ⟨events, written, accepts, _⟩ := answer_logged session stamp order
  obtain ⟨others, refused, _, rejects⟩ := answer_logged session stamp dangling
  constructor
  · have answers : ∃ report, (session.answer stamp order).1 = .ok report :=
      (exists_report_iff #[]).mpr ⟨request, read⟩
    obtain ⟨report, accepted⟩ := answers
    obtain ⟨rolls, same, logged⟩ := accepts report accepted
    obtain rfl := Option.some.inj (spelled.symm.trans same)
    refine ⟨report, accepted, ?_⟩
    rw [written, logged.complete, thrown]
    rfl
  · have rejected :=
      (@answer_eq_error_iff _ _ session stamp dangling _ #[]).mpr unread
    obtain ⟨_, _, logged⟩ := rejects _ rejected
    have visible : ¬ ∀ character ∈ dangling.text.toList,
        Text.isBlank character = true := fun blank =>
      absurd (blank '&' (by decide)) (by decide)
    rw [refused, (logged.unreadable visible unspelled).1]
    rfl

end Session

end DiceRoller
