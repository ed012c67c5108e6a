import DiceRoller.Proofs.Session.Answer

/-!
# Runs of orders

A session answers orders one after the other.  It knows the same names all the
time, and it knows a seed from the first accepted order that draws from it.
-/

namespace DiceRoller.Session

variable {σ : Type} [Source σ] {session : Session σ}
  {orders : List (Stamp × Order)} {stamp : Stamp} {order : Order}

def after (orders : List (Stamp × Order)) (count : Nat)
    (session : Session σ) : Session σ :=
  (answers (orders.take count) session).2

@[simp] theorem after_zero (orders : List (Stamp × Order))
    (session : Session σ) : session.after orders 0 = session := rfl

theorem answers_cons (stamp : Stamp) (order : Order)
    (later : List (Stamp × Order)) (session : Session σ) :
    session.answers ((stamp, order) :: later) =
      ((session.answer stamp order).1 ::
          ((session.answer stamp order).2.answers later).1,
        ((session.answer stamp order).2.answers later).2) := by
  rw [answers]

theorem after_cons (stamp : Stamp) (order : Order)
    (later : List (Stamp × Order)) (count : Nat) (session : Session σ) :
    session.after ((stamp, order) :: later) (count + 1) =
      (session.answer stamp order).2.after later count := by
  rw [after, List.take_succ_cons, answers_cons, after]

/-- Every reply, and the session after it, is the answer of the session before
it. -/
theorem answered_at (session : Session σ) {moment : Nat}
    (given : orders[moment]? = some (stamp, order)) :
    ∃ reply, (session.answers orders).1[moment]? = some reply ∧
      Answered (session.after orders moment) stamp order reply
        (session.after orders (moment + 1)) := by
  induction orders generalizing session moment with
  | nil => simp at given
  | cons first later induction =>
      obtain ⟨firstStamp, firstOrder⟩ := first
      rw [answers_cons, after_cons]
      cases moment with
      | zero =>
          cases given
          rw [after_zero, after_zero]
          exact ⟨_, List.getElem?_cons_zero, answered session stamp order⟩
      | succ moment =>
          rw [after_cons, List.getElem?_cons_succ]
          rw [List.getElem?_cons_succ] at given
          exact induction _ given

theorem after_of_none {moment : Nat} (ended : orders[moment]? = none) :
    session.after orders (moment + 1) = session.after orders moment := by
  have long := List.getElem?_eq_none_iff.mp ended
  rw [after, after, List.take_of_length_le long,
    List.take_of_length_le (Nat.le_succ_of_le long)]

theorem sameNames_after (orders : List (Stamp × Order)) (count : Nat)
    (session : Session σ) : (session.after orders count).SameNames session := by
  induction count with
  | zero => exact .refl session
  | succ count induction =>
      cases given : orders[count]? with
      | none =>
          rw [after_of_none given]
          exact induction
      | some entry =>
          obtain ⟨_, _, answered⟩ := answered_at session given
          exact answered.sameNames.trans induction

theorem select_after (orders : List (Stamp × Order)) (count : Nat)
    (session : Session σ) (order : Order) :
    (session.after orders count).select order = session.select order :=
  (sameNames_after orders count session).select_eq order

/-- Before the moment, an order was accepted that draws from the generator. -/
def DrawnBefore (session : Session σ) (orders : List (Stamp × Order))
    (selection : Selection) (moment : Nat) : Prop :=
  ∃ earlier stamp order report, earlier < moment ∧
    orders[earlier]? = some (stamp, order) ∧
    session.select order = selection ∧
    (session.answers orders).1[earlier]? = some (.ok report)

theorem DrawnBefore.succ {selection : Selection} {moment : Nat}
    (drawn : session.DrawnBefore orders selection moment) :
    session.DrawnBefore orders selection (moment + 1) := by
  obtain ⟨earlier, stamp, order, report, before, rest⟩ := drawn
  exact ⟨earlier, stamp, order, report, Nat.lt_succ_of_lt before, rest⟩

theorem DrawnBefore.of_succ {selection : Selection} {moment : Nat}
    (drawn : session.DrawnBefore orders selection (moment + 1))
    (elsewhere : ∀ stamp order report,
      orders[moment]? = some (stamp, order) →
      (session.answers orders).1[moment]? = some (.ok report) →
      session.select order ≠ selection) :
    session.DrawnBefore orders selection moment := by
  obtain ⟨earlier, stamp, order, report, before, given, selects, replied⟩ :=
    drawn
  rcases Nat.lt_succ_iff_lt_or_eq.mp before with before | rfl
  · exact ⟨earlier, stamp, order, report, before, given, selects, replied⟩
  · exact absurd selects (elsewhere stamp order report given replied)

/-- A seed gets its generator with the first accepted order that draws from
it, and keeps it from then on. -/
theorem isSome_seeded_after {seed : Int}
    (fresh : session.state? (.seeded seed) = none) (moment : Nat) :
    ((session.after orders moment).state? (.seeded seed)).isSome ↔
      session.DrawnBefore orders (.seeded seed) moment := by
  induction moment with
  | zero =>
      constructor
      · simp [fresh]
      · rintro ⟨_, _, _, _, before, _⟩
        exact absurd before (Nat.not_lt_zero _)
  | succ moment induction =>
      cases given : orders[moment]? with
      | none =>
          rw [after_of_none given, induction]
          refine ⟨.succ, fun drawn => drawn.of_succ fun _ _ _ again => ?_⟩
          cases given.symm.trans again
      | some entry =>
          obtain ⟨stamp, order⟩ := entry
          obtain ⟨reply, replied, answered⟩ := answered_at session given
          generalize session.after orders (moment + 1) = next at answered ⊢
          cases answered with
          | rejected _ unchanged =>
              rw [unchanged, induction]
              refine ⟨.succ, fun drawn => drawn.of_succ fun _ _ _ _ again => ?_⟩
              cases replied.symm.trans again
          | accepted _ _ changed =>
              rw [changed, select_after]
              by_cases here : .seeded seed = session.select order
              · rw [if_pos here]
                refine ⟨fun _ => ?_, fun _ => rfl⟩
                exact ⟨moment, stamp, order, _, Nat.lt_succ_self moment, given,
                  here.symm, replied⟩
              · rw [if_neg here, induction]
                refine ⟨.succ, fun drawn => drawn.of_succ ?_⟩
                intro _ _ _ again _ selects
                cases given.symm.trans again
                exact here selects.symm

end DiceRoller.Session
