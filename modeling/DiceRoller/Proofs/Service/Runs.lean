import DiceRoller.Proofs.Service.Description
import DiceRoller.Proofs.Session.Isolation

/-!
# Runs of calls

A service answers calls one after the other.  As far as its generators go, it
passes through the states of a session that is ordered to throw the texts and
is ordered a blank text for each description.
-/

namespace DiceRoller

open Source (Fair)

theorem Session.Agrees.trans {σ : Type} {chosen : Selection}
    {first second third : Session σ} (before : Agrees chosen first second)
    (after : Agrees chosen second third) : Agrees chosen first third :=
  { names := before.names.trans after.names
    same := before.same.trans after.same }

/-- What a service makes of the answer to an order. -/
def Reply.ofAnswer : Except Failure Report → Reply
  | .error failure => .ofFailure failure
  | .ok accepted => .report accepted

theorem Reply.ofAnswer_eq_rejected_iff {answer : Except Failure Report}
    {rejection : Rejection} :
    ofAnswer answer = .rejected rejection ↔
      answer = .error (.rejected rejection) := by
  cases answer with
  | error failure => cases failure <;> simp [ofAnswer, ofFailure]
  | ok accepted => simp [ofAnswer]

namespace Service

/-- The order of a text under the settings of a service. -/
def order (settings : Settings) (text : String) : Order :=
  { text, generator := none, settings }

/-- The generator that a service draws from. -/
def selection (settings : Settings) : Selection :=
  match settings.seed with
  | some seed => .seeded seed
  | none => .system

variable {σ : Type}

theorem select_order (settings : Settings) (text : String)
    (session : Session σ) :
    session.select (order settings text) = selection settings := rfl

variable [Source σ] {settings : Settings} {session : Session σ}
  {calls : List (Stamp × Call)} {stamp : Stamp} {call : Call} {text : String}

theorem reply_roll (settings : Settings) (stamp : Stamp)
    (session : Session σ) (text : String) :
    reply settings stamp session (.roll text) =
      (.ofAnswer (session.answer stamp (order settings text)).1,
        (session.answer stamp (order settings text)).2) := by
  unfold reply
  dsimp only
  split <;> rename_i answered
  · rw [order, answered]
    rfl
  · rw [order, answered]
    rfl

def after (settings : Settings) (calls : List (Stamp × Call)) (count : Nat)
    (session : Session σ) : Session σ :=
  (replies settings (calls.take count) session).2

theorem replies_cons (settings : Settings) (stamp : Stamp) (call : Call)
    (later : List (Stamp × Call)) (session : Session σ) :
    replies settings ((stamp, call) :: later) session =
      ((reply settings stamp session call).1 ::
          (replies settings later (reply settings stamp session call).2).1,
        (replies settings later (reply settings stamp session call).2).2) := by
  rw [replies]

/-- Every call is answered by the session that the calls before it leave. -/
theorem replied_at (settings : Settings) (session : Session σ) {moment : Nat}
    (given : calls[moment]? = some (stamp, call)) :
    (replies settings calls session).1[moment]? =
        some (reply settings stamp (after settings calls moment session)
          call).1 ∧
      after settings calls (moment + 1) session =
        (reply settings stamp (after settings calls moment session)
          call).2 := by
  induction calls generalizing session moment with
  | nil => simp at given
  | cons first later induction =>
      obtain ⟨firstStamp, firstCall⟩ := first
      rw [replies_cons]
      cases moment with
      | zero =>
          cases given
          exact ⟨rfl, by rw [after, List.take_succ_cons, replies_cons]; rfl⟩
      | succ moment =>
          have step (count : Nat) : after settings
              ((firstStamp, firstCall) :: later) (count + 1) session =
              after settings later count
                (reply settings firstStamp session firstCall).2 := by
            rw [after, List.take_succ_cons, replies_cons, after]
          rw [List.getElem?_cons_succ, step, step]
          rw [List.getElem?_cons_succ] at given
          exact induction _ given

theorem after_of_none {moment : Nat} (ended : calls[moment]? = none) :
    after settings calls (moment + 1) session =
      after settings calls moment session := by
  have long := List.getElem?_eq_none_iff.mp ended
  rw [after, after, List.take_of_length_le long,
    List.take_of_length_le (Nat.le_succ_of_le long)]

/-- A description throws as much as the order of a blank text. -/
def orderOf (settings : Settings) : Call → Order
  | .roll text => order settings text
  | .describe _ => order settings ""

def orders (settings : Settings) (calls : List (Stamp × Call)) :
    List (Stamp × Order) :=
  calls.map fun entry => (entry.1, orderOf settings entry.2)

theorem getElem?_orders_eq_some_iff {moment : Nat} {order : Order} :
    (orders settings calls)[moment]? = some (stamp, order) ↔
      ∃ call, calls[moment]? = some (stamp, call) ∧
        orderOf settings call = order := by
  rw [orders, List.getElem?_map, Option.map_eq_some_iff]
  constructor
  · rintro ⟨⟨stamp, call⟩, given, same⟩
    cases same
    exact ⟨call, given, rfl⟩
  · rintro ⟨call, given, rfl⟩
    exact ⟨(stamp, call), given, rfl⟩

theorem getElem?_orders {moment : Nat}
    (given : calls[moment]? = some (stamp, call)) :
    (orders settings calls)[moment]? = some (stamp, orderOf settings call) :=
  getElem?_orders_eq_some_iff.mpr ⟨call, given, rfl⟩

theorem readWithin_blank (settings : Settings) (journal : Journal) :
    (Request.readWithin settings "" journal).1 = .error (.rejected .blank) := rfl

theorem agrees_reply_describe (settings : Settings) (stamp : Stamp)
    (session : Session σ) (text : String) (chosen : Selection) :
    Session.Agrees chosen (reply settings stamp session (.describe text)).2
      session :=
  { names := fun _ => rfl, same := Session.state?_write session _ chosen }

/-- The service passes through the states of the session with its orders. -/
theorem agrees_orders (settings : Settings) (calls : List (Stamp × Call))
    (session : Session σ) (chosen : Selection) (moment : Nat) :
    Session.Agrees chosen (after settings calls moment session)
      (session.after (orders settings calls) moment) := by
  induction moment with
  | zero => exact { names := .refl session, same := rfl }
  | succ moment induction =>
      cases given : calls[moment]? with
      | none =>
          have ended : (orders settings calls)[moment]? = none := by
            rw [orders, List.getElem?_map, given]
            rfl
          rw [after_of_none given, Session.after_of_none ended]
          exact induction
      | some entry =>
          obtain ⟨stamp, call⟩ := entry
          obtain ⟨_, _, answered⟩ :=
            Session.answered_at session (getElem?_orders given)
          rw [(replied_at settings session given).2]
          cases call with
          | roll text =>
              rw [reply_roll]
              exact induction.both (Session.answered _ stamp _) answered
          -- Neither a description nor a blank text changes a generator.
          | describe text =>
              obtain ⟨refused, _⟩ :=
                answered.of_error (readWithin_blank settings #[])
              exact (agrees_reply_describe settings stamp _ text chosen).trans
                (induction.symm.skip answered (.inl ⟨.blank, refused⟩)).symm

end Service

end DiceRoller
