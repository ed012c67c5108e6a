import DiceRoller.Proofs.Request.Exactness
import DiceRoller.Proofs.Session.Answer
import DiceRoller.Proofs.Table.Recording

/-!
# The dice that are drawn for an order

A session whose generators keep records answers as it does without them, and
the records tell what an order draws: all the dice that its text spells, in the
order in which they are spelled, from the generator that it selects, or none at
all if it is rejected.
-/

namespace DiceRoller

open Source (draws)
open Text (Opens)

/-- The register with a function applied to each of its values. -/
def Register.map {κ ν ρ : Type} (change : ν → ρ) (register : Register κ ν) :
    Register κ ρ :=
  { entries := register.entries.map fun entry => (entry.1, change entry.2) }

@[simp] theorem Register.get?_map {κ ν ρ : Type} [DecidableEq κ]
    (change : ν → ρ) (register : Register κ ν) (key : κ) :
    (register.map change).get? key = (register.get? key).map change := by
  obtain ⟨entries⟩ := register
  simp only [get?, map]
  induction entries with
  | nil => rfl
  | cons entry later induction =>
      by_cases here : entry.1 = key
      · simp [find?, here]
      · simpa [find?, here] using induction

namespace Session

variable {σ : Type}

/-- The session with an empty record at each of its generators. -/
def recording (session : Session σ) : Session (Recorded σ) :=
  { named := session.named.map .fresh
    seeded := session.seeded.map .fresh
    system := .fresh session.system
    journal := session.journal }

theorem state?_recording (session : Session σ) (selection : Selection) :
    session.recording.state? selection =
      (session.state? selection).map .fresh := by
  cases selection <;> simp [state?, recording]

theorem select_recording (session : Session σ) (order : Order) :
    session.recording.select order = session.select order := by
  simp [select, recording]

/-- The calls that the record of a generator tells of.  Of a generator that is
not kept there is no record. -/
def calls (session : Session (Recorded σ)) (selection : Selection) :
    List (Int × Int) :=
  ((session.state? selection).map Recorded.drawn).getD []

variable [Source σ]

theorem generator_recording (session : Session σ) (selection : Selection) :
    session.recording.generator selection =
      .fresh (session.generator selection) := by
  cases selection with
  | named name => simp [generator, recording, Option.getD_map]
  | seeded seed =>
      simp only [generator, recording, Register.get?_map]
      exact Option.getD_map Recorded.fresh (Source.seeded seed) _
  | system => rfl

theorem provenance_recording (session : Session σ) (selection : Selection) :
    session.recording.provenance selection = session.provenance selection := by
  cases selection with
  | named name =>
      simp only [provenance, generator_recording]
      rfl
  | seeded seed => rfl
  | system => rfl

/-- The answer to an order with a record of the calls that are made for it. -/
def recorded (stamp : Stamp) (order : Order) (session : Session σ) :
    Except Failure Report × Session (Recorded σ) :=
  session.recording.answer stamp order

/-- The calls that are made of a generator for an order. -/
def drawnFrom (stamp : Stamp) (order : Order) (session : Session σ)
    (selection : Selection) : List (Int × Int) :=
  (session.recorded stamp order).2.calls selection

/-- The calls that are made for an order of the generator that it selects. -/
def drawn (stamp : Stamp) (order : Order) (session : Session σ) :
    List (Int × Int) :=
  session.drawnFrom stamp order (session.select order)

section Drawn

variable {stamp : Stamp} {order : Order} {session : Session σ}

theorem recorded_of_error {failure : Failure}
    (reading : (Request.readWithin order.settings order.text
      session.journal).1 = .error failure) :
    (session.recorded stamp order).1 = .error failure ∧
      ∀ selection, (session.recorded stamp order).2.state? selection =
        (session.state? selection).map .fresh := by
  have answered := answered session.recording stamp order
  obtain ⟨reply, unchanged⟩ := answered.of_error reading
  exact ⟨reply, fun selection =>
    (unchanged selection).trans (state?_recording session selection)⟩

theorem recorded_of_ok {request : Request}
    (reading : (Request.readWithin order.settings order.text
      session.journal).1 = .ok request) :
    let state := session.generator (session.select order)
    ∃ report,
      (session.recorded stamp order).1 = .ok report ∧
        request.Reported (session.provenance (session.select order)) stamp
          (draws request.dice state).1 report ∧
        ∀ selection, (session.recorded stamp order).2.state? selection =
          if selection = session.select order then
            some { state := (draws request.dice state).2
                   drawn := Source.calls request.dice }
          else (session.state? selection).map .fresh := by
  intro state
  have answered := answered session.recording stamp order
  obtain ⟨report, reply, reported, changed⟩ := answered.of_ok reading
  simp only [select_recording, generator_recording, provenance_recording,
    Recorded.draws_eq] at reported changed
  refine ⟨report, reply, reported, fun selection => ?_⟩
  rw [← state?_recording]
  exact changed selection

/-- A record has no part in the reply, nor in the states that are left. -/
theorem recorded_eq (session : Session σ) (stamp : Stamp) (order : Order) :
    (session.recorded stamp order).1 = (session.answer stamp order).1 ∧
      ∀ selection,
        ((session.recorded stamp order).2.state? selection).map
            Recorded.state =
          (session.answer stamp order).2.state? selection := by
  have forgotten (selection : Selection) :
      ((session.state? selection).map Recorded.fresh).map Recorded.state =
        session.state? selection := by
    cases session.state? selection <;> rfl
  have answered := answered session stamp order
  cases reading :
      (Request.readWithin order.settings order.text session.journal).1 with
  | error failure =>
      obtain ⟨reply, unchanged⟩ := answered.of_error reading
      obtain ⟨recordedReply, kept⟩ := @recorded_of_error _ _ stamp _ _ _ reading
      refine ⟨recordedReply.trans reply.symm, fun selection => ?_⟩
      rw [kept, forgotten, unchanged]
  | ok request =>
      obtain ⟨report, reply, reported, changed⟩ := answered.of_ok reading
      obtain ⟨again, recordedReply, recordedReported, kept⟩ :=
        @recorded_of_ok _ _ stamp _ _ _ reading
      refine ⟨?_, fun selection => ?_⟩
      · rw [recordedReply, reply, recordedReported.unique reported]
      · rw [kept, changed]
        split
        · rfl
        · exact forgotten selection

theorem drawnFrom_of_error {failure : Failure}
    (reading : (Request.readWithin order.settings order.text
      session.journal).1 = .error failure) (selection : Selection) :
    session.drawnFrom stamp order selection = [] := by
  rw [drawnFrom, calls, (recorded_of_error reading).2]
  cases session.state? selection <;> rfl

theorem drawnFrom_of_ok {request : Request}
    (reading : (Request.readWithin order.settings order.text
      session.journal).1 = .ok request) (selection : Selection) :
    session.drawnFrom stamp order selection =
      if selection = session.select order then Source.calls request.dice
      else [] := by
  obtain ⟨_, _, _, kept⟩ := @recorded_of_ok _ _ stamp _ _ _ reading
  rw [drawnFrom, calls, kept]
  by_cases here : selection = session.select order
  · simp only [if_pos here, Option.map_some, Option.getD_some]
  · simp only [if_neg here]
    cases session.state? selection <;> rfl

theorem drawn_of_error {failure : Failure}
    (reading : (Request.readWithin order.settings order.text
      session.journal).1 = .error failure) :
    session.drawn stamp order = [] :=
  drawnFrom_of_error reading _

theorem drawn_of_ok {request : Request}
    (reading : (Request.readWithin order.settings order.text
      session.journal).1 = .ok request) :
    session.drawn stamp order = Source.calls request.dice :=
  (drawnFrom_of_ok reading _).trans (if_pos rfl)

end Drawn

/-- An order is answered exactly if its text is read within the limits of the
settings and spells no more dice than they allow.  Else it is told what was
wrong with the text, or how many dice it spells; of the dice nothing is told
unless the text was read.  The calls for it are one for each die that the text
spells, in order, all made of the selected generator, or none is made. -/
theorem answer_draws (session : Session σ) (stamp : Stamp) (order : Order) :
    let limits : Limits :=
      { rolls := some order.settings.maxRolls
        terms := some order.settings.maxTerms }
    let reading := (Request.read limits order.text session.journal).1
    let reply := session.answer stamp order
    let recorded := session.recorded stamp order
    recorded.1 = reply.1 ∧
      (∀ selection, (recorded.2.state? selection).map Recorded.state =
        reply.2.state? selection) ∧
      ((∃ report, reply.1 = .ok report) ↔
        ∃ request, reading = .ok request ∧
          (request.diceCount : Int) ≤ order.settings.maxDice) ∧
      (∀ failure, reading = .error failure → reply.1 = .error failure ∧
        ∃ rejection, failure = .rejected rejection ∧
          ¬ Opens "[TOO_MANY_DICE]" rejection.message) ∧
      (∀ request, reading = .ok request →
        order.settings.maxDice < request.diceCount →
        ∃ rejection, reply.1 = .error (.rejected rejection) ∧
          rejection.message = "[TOO_MANY_DICE] " ++
            toString request.diceCount ++ " dice requested, at most " ++
            toString order.settings.maxDice ++
            " are allowed. Example: '4x3d8-5'.") ∧
      (∀ failure, reply.1 = .error failure → ∀ selection,
        session.drawnFrom stamp order selection = [] ∧
          reply.2.state? selection = session.state? selection) ∧
      ∀ report, reply.1 = .ok report →
        ∃ request, reading = .ok request ∧
          let drawn := session.drawn stamp order
          drawn = (request.rolls.flatMap Roll.terms).flatMap Term.calls ∧
          (∀ selection, selection ≠ session.select order →
            session.drawnFrom stamp order selection = []) ∧
          drawn.length = request.diceCount ∧
          1 ≤ drawn.length ∧
          (drawn.length : Int) ≤ order.settings.maxDice := by
  intro limits reading reply recorded
  obtain ⟨same, states⟩ := recorded_eq session stamp order
  refine ⟨same, states, ?_, ?_, ?_, ?_, ?_⟩
  · rw [exists_report_iff session.journal]
    simp only [Request.readWithin_eq_ok_iff]
    rfl
  · intro failure unread
    obtain ⟨rejection, rejected, uncounted⟩ :=
      Request.exists_rejection_of_read unread
    refine ⟨?_, rejection, rejected, ?_⟩
    · rw [answer_eq_error_iff session.journal, Request.readWithin_eq_error_iff]
      exact .inl unread
    · rw [Rejection.opens_tooManyDice_iff]
      rintro ⟨requested, allowed, counted⟩
      exact uncounted requested allowed counted
  · intro request read many
    refine ⟨.tooManyDice request.diceCount order.settings.maxDice, ?_, rfl⟩
    rw [answer_eq_error_iff session.journal, Request.readWithin_eq_error_iff]
    exact .inr ⟨request, read, many, rfl⟩
  · intro failure refused selection
    have unread := (answer_eq_error_iff session.journal).mp refused
    exact ⟨drawnFrom_of_error unread selection,
      ((answered session stamp order).of_error unread).2 selection⟩
  · intro report replied
    obtain ⟨request, within⟩ :=
      (exists_report_iff session.journal).mp ⟨report, replied⟩
    obtain ⟨read, few⟩ := Request.readWithin_eq_ok_iff.mp within
    have drawn := @drawn_of_ok _ _ stamp order session _ within
    have count : (session.drawn stamp order).length = request.diceCount := by
      rw [drawn, Source.calls, List.length_map, request.length_dice]
    refine ⟨request, read, ?_, fun selection elsewhere => ?_, count, ?_, ?_⟩
    · rw [drawn, Request.dice, Roll.flatMap_dice, Term.calls_dice]
    · rw [drawnFrom_of_ok within, if_neg elsewhere]
    · rw [count]
      exact Request.diceCount_pos read
    · rw [count]
      exact few

def joinedOrder (text : String) : Order :=
  { text, generator := some "script", settings := { maxDice := 3 } }

theorem answer_draws_joined :
    let stamp : Stamp := { identifier := "", time := "", nonce := "" }
    let session := start
      [("script", Generator.scripted (.ofFaces [2, 5, 3]))] .lowest
    let order := joinedOrder "2d6 & d4"
    let larger := joinedOrder "2d6 & 2d4"
    (∃ report, (session.answer stamp order).1 = .ok report) ∧
      session.drawn stamp order = [(1, 6), (1, 6), (1, 4)] ∧
      (∃ rejection,
        (session.answer stamp larger).1 = .error (.rejected rejection) ∧
          rejection.message = "[TOO_MANY_DICE] 4 dice requested, " ++
            "at most 3 are allowed. Example: '4x3d8-5'.") ∧
      session.drawn stamp larger = [] := by
  intro stamp session order larger
  let sixes : Roll := .single (.mk 2 6 0 (by decide) (by decide))
  let four : Roll := .single (.mk 1 4 0 (by decide) (by decide))
  let fours : Roll := .single (.mk 2 4 0 (by decide) (by decide))
  let request : Request := .ofRolls "2d6 & d4" [.joined sixes four]
  let tooLarge : Request := .ofRolls "2d6 & 2d4" [.joined sixes fours]
  have read : (Request.read order.settings.limits order.text
      session.journal).1 = .ok request := by decide +kernel
  have readLarger : (Request.read larger.settings.limits larger.text
      session.journal).1 = .ok tooLarge := by decide +kernel
  have few : (request.diceCount : Int) ≤ 3 := by decide +kernel
  have many : (3 : Int) < tooLarge.diceCount := by decide +kernel
  have calls : (request.rolls.flatMap Roll.terms).flatMap Term.calls =
      [(1, 6), (1, 6), (1, 4)] := by decide +kernel
  have told : "[TOO_MANY_DICE] " ++ toString tooLarge.diceCount ++
        " dice requested, at most " ++ toString (3 : Int) ++
        " are allowed. Example: '4x3d8-5'." =
      "[TOO_MANY_DICE] 4 dice requested, " ++
        "at most 3 are allowed. Example: '4x3d8-5'." := by decide +kernel
  obtain ⟨_, _, accepts, _, _, _, draws⟩ := answer_draws session stamp order
  obtain ⟨_, _, _, _, rejects, drawsNone, _⟩ :=
    answer_draws session stamp larger
  obtain ⟨report, replied⟩ := accepts.mpr ⟨request, read, few⟩
  obtain ⟨again, reread, drawn, _⟩ := draws report replied
  obtain rfl : request = again := Except.ok.inj (read.symm.trans reread)
  obtain ⟨rejection, rejected, message⟩ := rejects tooLarge readLarger many
  exact ⟨⟨report, replied⟩, drawn.trans calls,
    ⟨rejection, rejected, message.trans told⟩,
    (drawsNone _ rejected _).1⟩

end Session

end DiceRoller
