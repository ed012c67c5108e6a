import DiceRoller.Proofs.Service.Runs

/-!
# The tools of a service agree

What a service describes it also throws, unless there are too many dice, and
neither a description nor a rejected throw shows in what is thrown later.
-/

namespace DiceRoller

open Notation (rolls?)
open Source (Fair draws)

/-- The reply without what a report takes from the outside world. -/
def Reply.unstamped : Reply → Reply
  | .report answered => .report answered.unstamped
  | other => other

theorem Reply.unstamped_ofAnswer_congr
    {first second : Except Failure Report}
    (same : first.map Report.unstamped = second.map Report.unstamped) :
    (ofAnswer first).unstamped = (ofAnswer second).unstamped := by
  cases first with
  | error failure =>
      cases second with
      | error other =>
          cases same
          cases failure <;> rfl
      | ok other => cases same
  | ok answered =>
      cases second with
      | error other => cases same
      | ok other => exact congrArg Reply.report (Except.ok.inj same)

/-- All dice of the text have one side. -/
def OneSided (text : String) : Prop :=
  ∀ rolls, rolls? text = some rolls →
    ∀ roll ∈ rolls, ∀ term ∈ roll.terms, term.sides = 1

theorem OneSided.dice {settings : Settings} {text : String}
    {journal : Journal} {request : Request} (oneSided : OneSided text)
    (accepted : (Request.readWithin settings text journal).1 = .ok request) :
    ∀ sides ∈ request.dice, sides = 1 := by
  obtain ⟨rolls, spelled, _, rfl⟩ :=
    Request.readWithin_eq_ok_iff_admits.mp accepted
  intro sides member
  obtain ⟨roll, among, die⟩ := List.mem_flatMap.mp member
  obtain ⟨term, inside, copy⟩ := List.mem_flatMap.mp die
  rw [List.eq_of_mem_replicate copy]
  exact oneSided rolls spelled roll among term inside

namespace Session

variable {σ : Type} [Source σ] {session other next otherNext : Session σ}
  {stamp later : Stamp} {order : Order}
  {reply otherReply : Except Failure Report}

theorem Answered.fair_system
    (answered : Answered session stamp order reply next)
    (fair : Fair session.system) : Fair next.system := by
  cases answered with
  | rejected _ unchanged =>
      have same : next.system = session.system :=
        Option.some.inj (unchanged .system)
      rwa [same]
  | @accepted request _ _ _ _ changed =>
      have left := changed .system
      by_cases here : .system = session.select order
      · rw [if_pos here, ← here] at left
        have drawn : next.system = (draws request.dice session.system).2 :=
          Option.some.inj left
        rw [drawn]
        exact fair.after_draws Request.dice_pos
      · rw [if_neg here] at left
        have same : next.system = session.system := Option.some.inj left
        rwa [same]

/-- Dice of one side show the same from every fair source. -/
theorem Answered.unstamped_of_oneSided
    (here : Answered session stamp order reply next)
    (there : Answered other later order otherReply otherNext)
    (selects : session.select order = .system)
    (otherSelects : other.select order = .system)
    (fair : Fair session.system) (otherFair : Fair other.system)
    (oneSided : OneSided order.text) :
    reply.map Report.unstamped = otherReply.map Report.unstamped := by
  cases here with
  | rejected reading _ =>
      rw [(there.of_error (reading #[])).1]
  | accepted reading reported _ =>
      have ones := oneSided.dice (reading #[])
      have shown := fair.draws_of_ones ones
      have otherShown := otherFair.draws_of_ones ones
      obtain ⟨_, otherReply, otherReported, _⟩ := there.of_ok (reading #[])
      have faces : (draws _ (session.generator .system)).1 =
          (draws _ (other.generator .system)).1 := shown.trans otherShown.symm
      have provenance : session.provenance .system = other.provenance .system :=
        rfl
      rw [selects, faces, provenance] at reported
      rw [otherSelects] at otherReported
      rw [otherReply]
      exact congrArg Except.ok (reported.restamp.unique otherReported.restamp)

end Session

namespace Service

/-- What the two tools say to one text: it is refused to be thrown wherever it
is refused to be described, a report is on the rolls that are described, and
apart from that only too many dice are refused. -/
structure Agree (settings : Settings) (text : String)
    (described thrown : Reply) : Prop where
  described_or_rejected :
    (∃ description rolls, described = .description description ∧
        rolls? text = some rolls ∧
        List.Forall₂ Roll.DescribedBy rolls description.rolls) ∨
      ∃ rejection, described = .rejected rejection
  thrown_or_rejected :
    (∃ report, thrown = .report report) ∨
      ∃ rejection, thrown = .rejected rejection
  rejected : ∀ {rejection}, described = .rejected rejection →
    thrown = .rejected rejection
  reported : ∀ {report}, thrown = .report report →
    ∃ description, described = .description description ∧
      description.rolls.map Prod.fst = report.descriptions
  refused :
    ((∃ description, described = .description description) ∧
        ∃ rejection, thrown = .rejected rejection) ↔
      ∃ rolls, rolls? text = some rolls ∧
        (rolls.length : Int) ≤ settings.maxRolls ∧
        (∀ roll ∈ rolls, (roll.termCount : Int) ≤ settings.maxTerms) ∧
        settings.maxDice < ((rolls.map Roll.diceCount).sum : Int)
  told : ∀ {description rejection rolls},
    described = .description description → thrown = .rejected rejection →
    rolls? text = some rolls →
    rejection.message = "[TOO_MANY_DICE] " ++
      toString (rolls.map Roll.diceCount).sum ++
      " dice requested, at most " ++ toString settings.maxDice ++
      " are allowed. Example: '4x3d8-5'."

section Agree

variable {σ : Type} [Source σ] {settings : Settings} {text : String}
  {session next : Session σ} {stamp : Stamp} {reply : Reply}
  {answer : Except Failure Report}

theorem agree (described : Described settings text reply)
    (answered :
      Session.Answered session stamp (order settings text) answer next) :
    Agree settings text reply (.ofAnswer answer) := by
  cases described with
  | @rejected rejection unread =>
      obtain ⟨rfl, _⟩ := answered.of_error
        (Request.readWithin_eq_error_iff.mpr (.inl (unread #[])))
      refine ⟨.inr ⟨_, rfl⟩, .inr ⟨_, rfl⟩, id, fun impossible => ?_, ?_,
        fun impossible => ?_⟩
      · cases impossible
      · constructor
        · rintro ⟨⟨_, impossible⟩, _⟩
          cases impossible
        · rintro ⟨rolls, spelled, few, short, _⟩
          have accepted :=
            Request.read_of_admits spelled
              (Settings.limits_admits_iff.mpr ⟨few, short⟩) #[]
          cases (unread #[]).symm.trans accepted
      · cases impossible
  | @described rolls entries spelled admits entriesDescribe =>
      have accepted := Request.read_of_admits spelled admits #[]
      by_cases many :
          settings.maxDice < ((rolls.map Roll.diceCount).sum : Int)
      · obtain ⟨rfl, _⟩ := answered.of_error
          (Request.readWithin_eq_error_iff.mpr
            (.inr ⟨_, accepted, many, rfl⟩))
        obtain ⟨few, short⟩ := Settings.limits_admits_iff.mp admits
        refine ⟨.inl ⟨_, rolls, rfl, spelled, entriesDescribe⟩,
          .inr ⟨_, rfl⟩, fun impossible => ?_, fun impossible => ?_, ?_,
          fun _ told again => ?_⟩
        · cases impossible
        · cases impossible
        · exact iff_of_true ⟨⟨_, rfl⟩, _, rfl⟩
            ⟨rolls, spelled, few, short, many⟩
        · cases spelled.symm.trans again
          cases told
          rfl
      · obtain ⟨report, rfl, reported, _⟩ := answered.of_ok
          (Request.readWithin_eq_ok_iff.mpr ⟨accepted, Int.not_lt.mp many⟩)
        refine ⟨.inl ⟨_, rolls, rfl, spelled, entriesDescribe⟩,
          .inl ⟨_, rfl⟩, fun impossible => ?_, fun same => ?_, ?_,
          fun _ impossible => ?_⟩
        · cases impossible
        · cases same
          refine ⟨_, rfl, ?_⟩
          rw [reported.descriptions_eq]
          exact descriptions_eq entriesDescribe
        · constructor
          · rintro ⟨_, _, impossible⟩
            cases impossible
          · rintro ⟨others, again, _, _, tooMany⟩
            cases spelled.symm.trans again
            exact absurd tooMany many
        · cases impossible

end Agree

section Deletion

variable {σ : Type} [Source σ] {settings : Settings}
  {session other : Session σ} {place : Nat → Nat}
  {kept calls : List (Stamp × Call)} {stamp : Stamp} {call : Call}
  {text : String}

/-- The kept calls are calls among all of them, each at its place and in the
same sequence, while their stamps may be others; calls are left out only if
they describe or are rejected. -/
structure Deletes (settings : Settings) (session : Session σ)
    (place : Nat → Nat) (kept calls : List (Stamp × Call)) : Prop where
  increasing : ∀ {first second}, first < second → place first < place second
  same : ∀ {index stamp call}, kept[index]? = some (stamp, call) →
    ∃ other, calls[place index]? = some (other, call)
  harmless : ∀ {moment stamp call}, calls[moment]? = some (stamp, call) →
    (∀ index, index < kept.length → place index ≠ moment) →
    (∃ text, call = .describe text) ∨
      ∃ rejection,
        (replies settings calls session).1[moment]? = some (.rejected rejection)

theorem Deletes.within (deletes : Deletes settings session place kept calls) :
    Session.Within place (orders settings kept) (orders settings calls) where
  increasing := deletes.increasing
  same {index stamp order} given := by
    obtain ⟨call, keptGiven, rfl⟩ := getElem?_orders_eq_some_iff.mp given
    obtain ⟨other, callGiven⟩ := deletes.same keptGiven
    exact ⟨other, getElem?_orders callGiven⟩

/-- A rejected call throws nothing, so the order in its place is rejected. -/
theorem exists_error_of_rejected {moment : Nat} {rejection : Rejection}
    (given : calls[moment]? = some (stamp, .roll text))
    (rejected : (replies settings calls session).1[moment]? =
      some (.rejected rejection)) :
    (session.answers (orders settings calls)).1[moment]? =
      some (.error (.rejected rejection)) := by
  obtain ⟨answer, answeredHere, answered⟩ :=
    Session.answered_at session (getElem?_orders given)
  have replied := (replied_at settings session given).1.symm.trans rejected
  rw [reply_roll] at replied
  have refused :=
    Reply.ofAnswer_eq_rejected_iff.mp (Option.some.inj replied)
  have unread := (Session.answer_eq_error_iff #[]).mp refused
  rw [answeredHere, (answered.of_error unread).1]

theorem Deletes.harmless_orders
    (deletes : Deletes settings session place kept calls)
    (chosen : Selection) :
    session.Harmless chosen place (orders settings kept)
      (orders settings calls) := by
  intro moment stamp order given leftOut
  obtain ⟨call, callGiven, rfl⟩ := getElem?_orders_eq_some_iff.mp given
  have left : ∀ index, index < kept.length → place index ≠ moment :=
    fun index short => leftOut index (by simpa [orders] using short)
  refine .inl ?_
  cases call with
  | describe text =>
      obtain ⟨answer, answeredHere, answered⟩ :=
        Session.answered_at session (getElem?_orders callGiven)
      have refused :=
        (answered.of_error (readWithin_blank settings #[])).1
      exact ⟨.blank, by rw [answeredHere, refused]⟩
  | roll text =>
      rcases deletes.harmless callGiven left with
        ⟨_, impossible⟩ | ⟨rejection, rejected⟩
      · cases impossible
      · exact ⟨rejection, exists_error_of_rejected callGiven rejected⟩

theorem Deletes.agrees (deletes : Deletes settings session place kept calls)
    {chosen : Selection} (start : Session.Agrees chosen session other)
    {index : Nat} (given : kept[index]? = some (stamp, call)) :
    Session.Agrees chosen (after settings calls (place index) session)
      (after settings kept index other) :=
  have between := Session.agrees_at_place start deletes.within
    (deletes.harmless_orders chosen) (getElem?_orders given)
  (agrees_orders settings calls session chosen (place index)).trans
    (between.trans (agrees_orders settings kept other chosen index).symm)

theorem fair_after (fair : Fair session.system) (settings : Settings)
    (calls : List (Stamp × Call)) (moment : Nat) :
    Fair (after settings calls moment session).system := by
  induction moment with
  | zero => exact fair
  | succ moment induction =>
      cases given : calls[moment]? with
      | none =>
          rw [after_of_none given]
          exact induction
      | some entry =>
          obtain ⟨stamp, call⟩ := entry
          rw [(replied_at settings session given).2]
          cases call with
          | roll text =>
              rw [reply_roll]
              exact (Session.answered _ stamp _).fair_system induction
          | describe text => exact induction

end Deletion

/-- Wherever in a run the two tools are called with one text, they agree on
it.  A throw is answered the same if descriptions and rejected calls are left
out, whatever the system's source shows, as long as there is a seed or dice of
one side are thrown. -/
theorem replies_agree {σ : Type} [Source σ] (settings : Settings)
    (session : Session σ) (calls : List (Stamp × Call)) :
    (∀ (first second : Nat) (stamp later : Stamp) (text : String),
      calls[first]? = some (stamp, .describe text) →
      calls[second]? = some (later, .roll text) →
      ∃ described thrown,
        (replies settings calls session).1[first]? = some described ∧
        (replies settings calls session).1[second]? = some thrown ∧
        Agree settings text described thrown) ∧
    ∀ (otherSystem : σ) (kept : List (Stamp × Call)) (place : Nat → Nat)
      (index : Nat) (stamp : Stamp) (text : String),
      Deletes settings session place kept calls →
      kept[index]? = some (stamp, .roll text) →
      settings.seed ≠ none ∨
        (Fair session.system ∧ Fair otherSystem ∧ OneSided text) →
      ∃ reply keptReply,
        (replies settings calls session).1[place index]? = some reply ∧
        (replies settings kept
          { session with system := otherSystem }).1[index]? =
            some keptReply ∧
        reply.unstamped = keptReply.unstamped := by
  constructor
  · intro first second stamp later text describes rolls
    have described :=
      described settings text (after settings calls first session).journal
    have answered := Session.answered (after settings calls second session)
      later (order settings text)
    refine ⟨_, _, (replied_at settings session describes).1,
      (replied_at settings session rolls).1, ?_⟩
    rw [reply_roll]
    exact agree described answered
  · intro otherSystem kept place index stamp text deletes given shown
    obtain ⟨other, callGiven⟩ := deletes.same given
    refine ⟨_, _, (replied_at settings session callGiven).1,
      (replied_at settings _ given).1, ?_⟩
    rw [reply_roll, reply_roll]
    apply Reply.unstamped_ofAnswer_congr
    have here := Session.answered (after settings calls (place index) session)
      other (order settings text)
    have there := Session.answered
      (after settings kept index { session with system := otherSystem }) stamp
      (order settings text)
    -- A seed has the same generator in both runs, and without one the dice
    -- are drawn from systems that need not agree.
    cases seed : settings.seed with
    | some number =>
        have start : Session.Agrees (selection settings) session
            { session with system := otherSystem } := by
          rw [selection, seed]
          exact { names := fun _ => rfl, same := rfl }
        have agrees := deletes.agrees start given
        rw [← select_order settings text
          (after settings calls (place index) session)] at agrees
        exact (agrees.selected here there).1
    | none =>
        rcases shown with seeded | ⟨fair, otherFair, oneSided⟩
        · exact absurd seed seeded
        · have selects : selection settings = .system := by
            rw [selection, seed]
          exact here.unstamped_of_oneSided there selects selects
            (fair_after fair settings calls (place index))
            (fair_after otherFair settings kept index) oneSided

def calling (identifier : String) (call : Call) : Stamp × Call :=
  ({ identifier, time := "", nonce := "" }, call)

/-- A description and a throw of too many dice come between two throws. -/
def interrupted : List (Stamp × Call) :=
  [calling "first" (.roll "2d1"), calling "second" (.describe "3d1"),
    calling "third" (.roll "3d1"), calling "fourth" (.roll "d1 & d1")]

theorem replies_agree_interrupted :
    let settings : Settings := { maxDice := 2 }
    let session := Session.start [] Generator.lowest
    let otherSystem := Generator.twister (Twister.ofSeed 5)
    let kept := [calling "fifth" (.roll "2d1"),
      calling "sixth" (.roll "d1 & d1")]
    Deletes settings session (3 * ·) kept interrupted ∧
      (∃ described thrown,
        (replies settings interrupted session).1[1]? = some described ∧
        (replies settings interrupted session).1[2]? = some thrown ∧
        Agree settings "3d1" described thrown) ∧
      ∃ reply keptReply,
        (replies settings interrupted session).1[3]? = some reply ∧
        (replies settings kept { session with system := otherSystem }).1[1]? =
          some keptReply ∧
        reply.unstamped = keptReply.unstamped := by
  intro settings session otherSystem kept
  have rejected : (replies settings interrupted session).1[2]? =
      some (.rejected (.tooManyDice 3 2)) := by decide +kernel
  have deletes : Deletes settings session (3 * ·) kept interrupted := by
    constructor
    · intro first second before
      omega
    · intro index stamp call given
      match index with
      | 0 | 1 =>
          cases given
          exact ⟨_, rfl⟩
      | _ + 2 => cases given
    · intro moment stamp call given leftOut
      match moment with
      | 0 => exact absurd rfl (leftOut 0 (by decide))
      | 1 =>
          cases given
          exact .inl ⟨_, rfl⟩
      | 2 => exact .inr ⟨_, rejected⟩
      | 3 => exact absurd rfl (leftOut 1 (by decide))
      | _ + 4 => cases given
  have oneSided : OneSided "d1 & d1" := by
    intro rolls spelled
    have read : rolls? "d1 & d1" = some
        [.joined (.single (.mk 1 1 0 (by decide) (by decide)))
          (.single (.mk 1 1 0 (by decide) (by decide)))] := by
      decide +kernel
    cases read.symm.trans spelled
    simp
  have otherFair : Fair otherSystem :=
    Generator.fair_twister (Twister.ofSeed 5)
  obtain ⟨agrees, deleted⟩ := replies_agree settings session interrupted
  refine ⟨deletes, agrees 1 2 _ _ "3d1" rfl rfl, ?_⟩
  exact deleted otherSystem kept (3 * ·) 1 _ "d1 & d1" deletes rfl
    (.inr ⟨Generator.fair_lowest, otherFair, oneSided⟩)

end Service

end DiceRoller
