import DiceRoller.Proofs.Report.Results
import DiceRoller.Proofs.Request.Limits
import DiceRoller.Session

/-!
# What an order does to a session

An order that is rejected leaves every generator as it is; one that is
answered draws its dice from the generator that it selects and from no other.
A seed gets its generator with the first order that draws from it.  No order
ends in any other way.
-/

namespace DiceRoller

open Source (draws)

namespace Session

variable {σ : Type}

/-- The state that a session keeps of a generator.  There is none for a name
that was not given and for a seed that has not been drawn from. -/
def state? (session : Session σ) : Selection → Option σ
  | .named name => session.named.get? name
  | .seeded seed => session.seeded.get? seed
  | .system => some session.system

def SameNames (session other : Session σ) : Prop :=
  ∀ name, (session.state? (.named name)).isSome =
    (other.state? (.named name)).isSome

theorem SameNames.refl (session : Session σ) : session.SameNames session :=
  fun _ => rfl

theorem SameNames.symm {session other : Session σ}
    (names : session.SameNames other) : other.SameNames session :=
  fun name => (names name).symm

theorem SameNames.trans {first second third : Session σ}
    (before : first.SameNames second) (after : second.SameNames third) :
    first.SameNames third :=
  fun name => (before name).trans (after name)

/-- The generator that an order asks for, if the names are those given. -/
inductive Selects (given : String → Prop) (order : Order) :
    Selection → Prop where
  | named {name : String} :
      order.generator = some name → given name →
      Selects given order (.named name)
  | seeded {seed : Int} :
      (∀ name, order.generator = some name → ¬ given name) →
      order.settings.seed = some seed →
      Selects given order (.seeded seed)
  | system :
      (∀ name, order.generator = some name → ¬ given name) →
      order.settings.seed = none →
      Selects given order .system

theorem selects_select (order : Order) (session : Session σ) :
    Selects (fun name => (session.state? (.named name)).isSome) order
      (session.select order) := by
  unfold select
  cases asked :
      order.generator.filter fun name => (session.named.get? name).isSome with
  | some name =>
      obtain ⟨named, given⟩ := Option.filter_eq_some_iff.mp asked
      exact .named named given
  | none =>
      have missing := Option.filter_eq_none_iff.mp asked
      cases seed : order.settings.seed with
      | some seed => exact .seeded missing seed
      | none => exact .system missing seed

theorem SameNames.select_eq {session other : Session σ}
    (names : session.SameNames other) (order : Order) :
    session.select order = other.select order := by
  have given : (fun name => (session.named.get? name).isSome) =
      fun name => (other.named.get? name).isSome := funext names
  simp only [select, given]

theorem state?_write (session : Session σ) (journal : Journal)
    (selection : Selection) :
    { session with journal }.state? selection = session.state? selection := by
  cases selection <;> rfl

theorem state?_keep (session : Session σ) (source : σ)
    (chosen selection : Selection) :
    (session.keep source chosen).state? selection =
      if selection = chosen then some source
      else session.state? selection := by
  cases chosen <;> cases selection <;>
    simp [keep, state?, Register.get?_put]

theorem isSome_state?_start (named : List (String × σ)) (system : σ)
    (name : String) :
    ((start named system).state? (.named name)).isSome ↔
      name ∈ named.map Prod.fst :=
  Register.isSome_get?_ofList named name

theorem state?_start (named : List (String × σ)) {selection : Selection}
    (drawn : selection ≠ .system) (system other : σ) :
    (start named system).state? selection =
      (start named other).state? selection := by
  cases selection with
  | named name => rfl
  | seeded seed => rfl
  | system => exact absurd rfl drawn

/-- Reading an order draws from no generator, whether it is rejected or not; no
more than that its text spells no rolls is written down. -/
theorem read_eq (session : Session σ) (order : Order) :
    ∃ journal,
      session.read order =
          ((Request.readWithin order.settings order.text session.journal).1,
            { session with journal }) ∧
        journal.toList =
          session.journal.toList ++ Request.readingEvents order.text :=
  ⟨_, rfl, Request.readWithin_snd _ _ _⟩

variable [Source σ]

/-- The generator that an order selects is in the state that is kept of it, or
in the first state of its seed. -/
theorem generator_congr {session other : Session σ} {order : Order}
    (same : session.state? (session.select order) =
      other.state? (session.select order)) :
    session.generator (session.select order) =
      other.generator (session.select order) := by
  have selects := selects_select order session
  revert same selects
  cases session.select order with
  | named name =>
      intro same selects
      cases selects with
      | named _ given =>
          obtain ⟨state, kept⟩ := Option.isSome_iff_exists.mp given
          rw [kept] at same
          simp only [state?] at kept same
          simp [generator, kept, ← same]
  | seeded seed =>
      intro same _
      simp only [state?] at same
      simp [generator, same]
  | system =>
      intro same _
      exact Option.some.inj same

theorem generator_of_state?_eq_none {session : Session σ} {seed : Int}
    (fresh : session.state? (.seeded seed) = none) :
    session.generator (.seeded seed) = Source.seeded seed := by
  simp only [state?] at fresh
  simp [generator, fresh]

theorem generator_of_state?_eq_some {session : Session σ}
    {selection : Selection} {state : σ}
    (kept : session.state? selection = some state) :
    session.generator selection = state := by
  cases selection with
  | named name =>
      simp only [state?] at kept
      simp [generator, kept]
  | seeded seed =>
      simp only [state?] at kept
      simp [generator, kept]
  | system => exact Option.some.inj kept

theorem provenance_congr {session other : Session σ} {selection : Selection}
    (same : session.generator selection = other.generator selection) :
    session.provenance selection = other.provenance selection := by
  cases selection <;> simp [provenance, same]

theorem generator_write (session : Session σ) (journal : Journal)
    (selection : Selection) :
    { session with journal }.generator selection =
      session.generator selection := by
  cases selection <;> rfl

/-- The reply to an order and the session after it: either the text is
rejected and every generator stays as it is, or it is accepted and its dice
are drawn from the selected generator, while the others stay as they are. -/
inductive Answered (session : Session σ) (stamp : Stamp) (order : Order) :
    Except Failure Report → Session σ → Prop where
  | rejected {rejection : Rejection} {next : Session σ} :
      (∀ journal, (Request.readWithin order.settings order.text journal).1 =
        .error (.rejected rejection)) →
      (∀ selection, next.state? selection = session.state? selection) →
      Answered session stamp order (.error (.rejected rejection)) next
  | accepted {request : Request} {report : Report} {next : Session σ} :
      (∀ journal, (Request.readWithin order.settings order.text journal).1 =
        .ok request) →
      request.Reported (session.provenance (session.select order)) stamp
        (draws request.dice (session.generator (session.select order))).1
        report →
      (∀ selection, next.state? selection =
        if selection = session.select order then
          some (draws request.dice
            (session.generator (session.select order))).2
        else session.state? selection) →
      Answered session stamp order (.ok report) next

/-- Throwing a request draws its dice from the selected generator. -/
theorem throwRequest_eq (session : Session σ) (stamp : Stamp) (order : Order)
    (request : Request) :
    let state := session.generator (session.select order)
    ∃ report,
      request.Reported (session.provenance (session.select order)) stamp
          (draws request.dice state).1 report ∧
        (session.throwRequest stamp order request).1 = .ok report ∧
        ∀ selection,
          (session.throwRequest stamp order request).2.state? selection =
            if selection = session.select order then
              some (draws request.dice state).2
            else session.state? selection := by
  intro state
  obtain ⟨report, reported, reply, left⟩ := Table.throwRequest_eq request
    (session.provenance (session.select order)) stamp
    (session.table (session.select order))
  refine ⟨report, reported, reply, fun selection => ?_⟩
  simp only [throwRequest, state?_write, state?_keep, left]
  rfl

theorem answered (session : Session σ) (stamp : Stamp) (order : Order) :
    Answered session stamp order (session.answer stamp order).1
      (session.answer stamp order).2 := by
  have anywhere := Request.readWithin_fst_congr order.settings order.text
  obtain ⟨journal, read, _⟩ := read_eq session order
  unfold answer
  rw [read]
  cases reading :
      (Request.readWithin order.settings order.text session.journal).1 with
  | error failure =>
      cases failure with
      | faulted fault =>
          exact absurd reading (Request.readWithin_ne_faulted fault)
      | rejected rejection =>
          refine .rejected (fun other => ?_) (state?_write session journal)
          rw [anywhere other session.journal, reading]
  | ok request =>
      obtain ⟨report, reported, reply, changed⟩ :=
        throwRequest_eq { session with journal } stamp order request
      have same := generator_write session journal (session.select order)
      have selects : { session with journal }.select order =
          session.select order := rfl
      rw [selects, same] at changed
      rw [selects, same, provenance_congr same] at reported
      dsimp only
      rw [reply]
      refine .accepted (fun other => ?_) reported (fun selection => ?_)
      · rw [anywhere other session.journal, reading]
      · rw [changed, state?_write]

section Answered

variable {session next : Session σ} {stamp : Stamp} {order : Order}
  {reply : Except Failure Report} {chosen : Selection}

theorem Answered.of_error
    (answered : Answered session stamp order reply next)
    {journal : Journal} {failure : Failure}
    (reading : (Request.readWithin order.settings order.text journal).1 =
      .error failure) :
    reply = .error failure ∧
      ∀ selection, next.state? selection = session.state? selection := by
  cases answered with
  | rejected again unchanged =>
      cases reading.symm.trans (again journal)
      exact ⟨rfl, unchanged⟩
  | accepted again _ _ => cases reading.symm.trans (again journal)

theorem Answered.of_ok (answered : Answered session stamp order reply next)
    {journal : Journal} {request : Request}
    (reading : (Request.readWithin order.settings order.text journal).1 =
      .ok request) :
    let state := session.generator (session.select order)
    ∃ report,
      reply = .ok report ∧
        request.Reported (session.provenance (session.select order)) stamp
          (draws request.dice state).1 report ∧
        ∀ selection, next.state? selection =
          if selection = session.select order then
            some (draws request.dice state).2
          else session.state? selection := by
  cases answered with
  | rejected again _ => cases reading.symm.trans (again journal)
  | accepted again reported changed =>
      cases reading.symm.trans (again journal)
      exact ⟨_, rfl, reported, changed⟩

/-- The next order that selects the same generator draws on from where this
one stopped. -/
theorem Answered.generator_eq
    (answered : Answered session stamp order reply next)
    {journal : Journal} {request : Request}
    (reading : (Request.readWithin order.settings order.text journal).1 =
      .ok request) :
    next.generator (session.select order) =
      (draws request.dice (session.generator (session.select order))).2 := by
  obtain ⟨_, _, _, changed⟩ := answered.of_ok reading
  have left := changed (session.select order)
  rw [if_pos rfl] at left
  exact generator_of_state?_eq_some left

theorem Answered.sameNames (answered : Answered session stamp order reply next) :
    next.SameNames session := by
  intro name
  cases answered with
  | rejected _ unchanged => rw [unchanged]
  | accepted _ _ changed =>
      rw [changed]
      by_cases here : .named name = session.select order
      · have selects := selects_select order session
        rw [← here] at selects
        cases selects with
        | named _ given => rw [if_pos here, given, Option.isSome_some]
      · rw [if_neg here]

theorem Answered.skipped (answered : Answered session stamp order reply next)
    (harmless : (∃ rejection, reply = .error (.rejected rejection)) ∨
      session.select order ≠ chosen) :
    next.state? chosen = session.state? chosen := by
  cases answered with
  | rejected _ unchanged => exact unchanged chosen
  | accepted _ _ changed =>
      rcases harmless with ⟨_, impossible⟩ | elsewhere
      · cases impossible
      · rw [changed, if_neg (Ne.symm elsewhere)]

end Answered

section Reply

variable {session : Session σ} {stamp : Stamp} {order : Order}

theorem answer_eq_error_iff {failure : Failure} (journal : Journal) :
    (session.answer stamp order).1 = .error failure ↔
      (Request.readWithin order.settings order.text journal).1 =
        .error failure := by
  have answered := answered session stamp order
  constructor
  · intro failed
    rw [failed] at answered
    cases answered with
    | rejected reading _ => exact reading journal
  · intro reading
    exact (answered.of_error reading).1

/-- What an order is told instead of a report is what is wrong with its text. -/
theorem exists_rejection {failure : Failure}
    (failed : (session.answer stamp order).1 = .error failure) :
    ∃ rejection, failure = .rejected rejection := by
  have answered := answered session stamp order
  rw [failed] at answered
  cases answered with
  | rejected _ _ => exact ⟨_, rfl⟩

theorem exists_report_iff (journal : Journal) :
    (∃ report, (session.answer stamp order).1 = .ok report) ↔
      ∃ request,
        (Request.readWithin order.settings order.text journal).1 =
          .ok request := by
  have answered := answered session stamp order
  constructor
  · rintro ⟨report, replied⟩
    rw [replied] at answered
    cases answered with
    | accepted reading _ _ => exact ⟨_, reading journal⟩
  · rintro ⟨request, reading⟩
    obtain ⟨report, replied, _⟩ := answered.of_ok reading
    exact ⟨report, replied⟩

end Reply

end Session

end DiceRoller
