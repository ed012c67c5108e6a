import DiceRoller.Proofs.Session.Runs

/-!
# The isolation of generators

The orders of a session that draw from one generator are answered as if the
session had answered no others: neither an order that is rejected nor one
that draws from another generator shows in what they are told.
-/

namespace DiceRoller

/-- The report without what it takes from the outside world. -/
def Report.unstamped (report : Report) : Report :=
  { report with stamp := { identifier := "", time := "", nonce := "" } }

namespace Session

variable {σ : Type}

/-- The sessions know the same names, and the generator is in the same state
in both of them. -/
structure Agrees (chosen : Selection) (session other : Session σ) : Prop where
  names : session.SameNames other
  same : session.state? chosen = other.state? chosen

theorem Agrees.symm {chosen : Selection} {session other : Session σ}
    (agrees : Agrees chosen session other) : Agrees chosen other session :=
  { names := agrees.names.symm, same := agrees.same.symm }

variable [Source σ]

section Step

variable {chosen : Selection} {session other next : Session σ}
  {stamp : Stamp} {order : Order} {reply : Except Failure Report}

theorem Agrees.skip (agrees : Agrees chosen session other)
    (answered : Answered session stamp order reply next)
    (harmless : (∃ rejection, reply = .error (.rejected rejection)) ∨
      session.select order ≠ chosen) :
    Agrees chosen next other :=
  { names := answered.sameNames.trans agrees.names
    same := (answered.skipped harmless).trans agrees.same }

variable {later : Stamp} {otherReply : Except Failure Report}
  {otherNext : Session σ}

/-- Sessions that agree on the generator an order selects give it the same
reply and agree on the generator again. -/
theorem Agrees.selected
    (agrees : Agrees (session.select order) session other)
    (here : Answered session stamp order reply next)
    (there : Answered other later order otherReply otherNext) :
    reply.map Report.unstamped = otherReply.map Report.unstamped ∧
      Agrees (session.select order) next otherNext := by
  have names : next.SameNames otherNext :=
    here.sameNames.trans (agrees.names.trans there.sameNames.symm)
  have selection := agrees.names.select_eq order
  have generator := generator_congr agrees.same
  have provenance := provenance_congr generator
  cases here with
  | rejected reading unchanged =>
      cases there with
      | rejected again otherUnchanged =>
          have rejection := (reading #[]).symm.trans (again #[])
          cases rejection
          refine ⟨rfl, names, ?_⟩
          rw [unchanged, otherUnchanged, agrees.same]
      | accepted again _ _ => cases (reading #[]).symm.trans (again #[])
  | accepted reading reported changed =>
      cases there with
      | rejected again _ => cases (reading #[]).symm.trans (again #[])
      | accepted again otherReported otherChanged =>
          have request := (reading #[]).symm.trans (again #[])
          cases request
          rw [← selection, ← generator, ← provenance] at otherReported
          refine ⟨?_, names, ?_⟩
          · exact congrArg Except.ok
              (reported.restamp.unique otherReported.restamp)
          · rw [changed, otherChanged, ← selection, ← generator, if_pos rfl,
              if_pos rfl]

theorem Agrees.both (agrees : Agrees chosen session other)
    (here : Answered session stamp order reply next)
    (there : Answered other later order otherReply otherNext) :
    Agrees chosen next otherNext := by
  by_cases selects : session.select order = chosen
  · subst selects
    exact (agrees.selected here there).2
  · have elsewhere : other.select order ≠ chosen := by
      rwa [← agrees.names.select_eq]
    exact ((agrees.skip here (.inr selects)).symm.skip there
      (.inr elsewhere)).symm

end Step

/-- The kept orders are orders among all of them, each at its place and in the
same sequence, while their stamps may be others. -/
structure Within (place : Nat → Nat) (kept full : List (Stamp × Order)) :
    Prop where
  increasing : ∀ {first second}, first < second → place first < place second
  same : ∀ {index stamp order}, kept[index]? = some (stamp, order) →
    ∃ other, full[place index]? = some (other, order)

def LeftOut (place : Nat → Nat) (kept : List (Stamp × Order))
    (moment : Nat) : Prop :=
  ∀ index, index < kept.length → place index ≠ moment

/-- The first so many kept orders are those that are placed before the
moment. -/
structure Reached (place : Nat → Nat) (kept : List (Stamp × Order))
    (moment count : Nat) : Prop where
  before : ∀ index, index < count → place index < moment
  behind : ∀ index, count ≤ index → index < kept.length →
    moment ≤ place index

theorem reached_zero (place : Nat → Nat) (kept : List (Stamp × Order)) :
    Reached place kept 0 0 :=
  { before := fun _ impossible => absurd impossible (Nat.not_lt_zero _)
    behind := fun _ _ _ => Nat.zero_le _ }

section Places

variable {place : Nat → Nat} {kept full : List (Stamp × Order)}
  {moment count : Nat}

theorem Reached.keep (reached : Reached place kept moment count)
    (within : Within place kept full) (here : place count = moment) :
    Reached place kept (moment + 1) (count + 1) := by
  constructor
  · intro index short
    rcases Nat.lt_succ_iff_lt_or_eq.mp short with short | rfl
    · exact Nat.lt_succ_of_lt (reached.before index short)
    · exact Nat.lt_succ_of_le (Nat.le_of_eq here)
  · intro index long _
    have further := within.increasing long
    rwa [here] at further

/-- A moment that is not the place of the next kept order is left out. -/
theorem Reached.leave (reached : Reached place kept moment count)
    (within : Within place kept full)
    (elsewhere : ¬(count < kept.length ∧ place count = moment)) :
    LeftOut place kept moment ∧ Reached place kept (moment + 1) count := by
  have further : ∀ index, count ≤ index → index < kept.length →
      moment < place index := by
    intro index long short
    refine Nat.lt_of_le_of_ne (reached.behind index long short) ?_
    rintro rfl
    rcases Nat.eq_or_lt_of_le long with rfl | longer
    · exact elsewhere ⟨short, rfl⟩
    · have countBehind := reached.behind count (Nat.le_refl count)
        (Nat.lt_trans longer short)
      exact absurd (within.increasing longer) (Nat.not_lt.mpr countBehind)
  constructor
  · intro index short
    rcases Nat.lt_or_ge index count with early | late
    · exact Nat.ne_of_lt (reached.before index early)
    · exact Nat.ne_of_gt (further index late short)
  · constructor
    · intro index short
      exact Nat.lt_succ_of_lt (reached.before index short)
    · exact further

theorem Reached.count_eq {index : Nat}
    (reached : Reached place kept (place index) count)
    (within : Within place kept full) (short : index < kept.length) :
    count = index := by
  rcases Nat.lt_trichotomy count index with early | here | late
  · have behind := reached.behind count (Nat.le_refl count)
      (Nat.lt_trans early short)
    exact absurd (within.increasing early) (Nat.not_lt.mpr behind)
  · exact here
  · exact absurd (reached.before index late) (Nat.lt_irrefl _)

end Places

section Deletion

variable {place : Nat → Nat} {kept full : List (Stamp × Order)}
  {chosen : Selection} {session other : Session σ} {stamp : Stamp}
  {order : Order}

/-- Orders are left out only if they are rejected or select another
generator. -/
def Harmless (session : Session σ) (chosen : Selection) (place : Nat → Nat)
    (kept full : List (Stamp × Order)) : Prop :=
  ∀ moment stamp order, full[moment]? = some (stamp, order) →
    LeftOut place kept moment →
    (∃ rejection,
      (session.answers full).1[moment]? =
        some (.error (.rejected rejection))) ∨
    session.select order ≠ chosen

theorem agrees_after (start : Agrees chosen session other)
    (within : Within place kept full)
    (harmless : session.Harmless chosen place kept full) (moment : Nat) :
    ∃ count, Reached place kept moment count ∧
      Agrees chosen (session.after full moment) (other.after kept count) := by
  induction moment with
  | zero => exact ⟨0, reached_zero place kept, start⟩
  | succ moment induction =>
      obtain ⟨count, reached, agrees⟩ := induction
      by_cases next : count < kept.length ∧ place count = moment
      -- Both runs take the order, which may well be of another generator.
      · obtain ⟨short, here⟩ := next
        have keptGiven := List.getElem?_eq_getElem short
        obtain ⟨stamp, given⟩ := within.same keptGiven
        rw [here] at given
        obtain ⟨_, _, answered⟩ := answered_at session given
        obtain ⟨_, _, keptAnswered⟩ := answered_at other keptGiven
        exact ⟨count + 1, reached.keep within here,
          agrees.both answered keptAnswered⟩
      -- Only the full run takes the order, if there is one left.
      · obtain ⟨leftOut, later⟩ := reached.leave within next
        refine ⟨count, later, ?_⟩
        cases given : full[moment]? with
        | none =>
            rw [after_of_none given]
            exact agrees
        | some entry =>
            obtain ⟨reply, replied, answered⟩ := answered_at session given
            refine agrees.skip answered ?_
            rw [select_after]
            refine (harmless moment _ _ given leftOut).imp_left ?_
            rintro ⟨rejection, refused⟩
            exact ⟨rejection, Option.some.inj (replied.symm.trans refused)⟩

/-- A kept order is answered from the state in which the full run answers it. -/
theorem agrees_at_place (start : Agrees chosen session other)
    (within : Within place kept full)
    (harmless : session.Harmless chosen place kept full) {index : Nat}
    (given : kept[index]? = some (stamp, order)) :
    Agrees chosen (session.after full (place index))
      (other.after kept index) := by
  obtain ⟨short, _⟩ := List.getElem?_eq_some_iff.mp given
  obtain ⟨count, reached, agrees⟩ :=
    agrees_after start within harmless (place index)
  rwa [reached.count_eq within short] at agrees

end Deletion

/-- In a session that starts with named generators, orders select generators
by their names and seeds throughout; a rejected order changes no generator; a
seed has a generator from the first accepted order that draws from it; and an
order is answered the same if other orders are left out that are rejected or
select another generator, whatever the system's source shows. -/
theorem answers_isolated (named : List (String × σ)) (system : σ)
    (full : List (Stamp × Order)) :
    let start := start named system
    (∀ moment order,
      Selects (fun name => name ∈ named.map Prod.fst) order
        ((start.after full moment).select order)) ∧
    (∀ moment stamp order, full[moment]? = some (stamp, order) →
      ∃ reply, (start.answers full).1[moment]? = some reply ∧
        Answered (start.after full moment) stamp order reply
          (start.after full (moment + 1))) ∧
    (∀ moment seed,
      (((start.after full moment).state? (.seeded seed)).isSome ↔
        start.DrawnBefore full (.seeded seed) moment) ∧
      (¬start.DrawnBefore full (.seeded seed) moment →
        (start.after full moment).generator (.seeded seed) =
          Source.seeded seed)) ∧
    (∀ otherSystem kept place index stamp order, Within place kept full →
      kept[index]? = some (stamp, order) → start.select order ≠ .system →
      start.Harmless (start.select order) place kept full →
      ∃ reply keptReply,
        (start.answers full).1[place index]? = some reply ∧
        ((Session.start named otherSystem).answers kept).1[index]? =
          some keptReply ∧
        reply.map Report.unstamped = keptReply.map Report.unstamped) := by
  intro start
  refine ⟨?_, ?_, ?_, ?_⟩
  · intro moment order
    have selects := selects_select order start
    simp only [start, isSome_state?_start] at selects
    rw [select_after]
    exact selects
  · intro moment stamp order given
    exact answered_at start given
  · intro moment seed
    have known := @isSome_seeded_after σ _ start full seed rfl moment
    refine ⟨known, fun fresh => generator_of_state?_eq_none ?_⟩
    rw [← Option.not_isSome_iff_eq_none, known]
    exact fresh
  · intro otherSystem kept place index stamp order within given drawn harmless
    have agreesFirst : Agrees (start.select order) start
        (Session.start named otherSystem) :=
      { names := fun _ => rfl, same := state?_start named drawn _ _ }
    have agrees := agrees_at_place agreesFirst within harmless given
    rw [← select_after full (place index) start order] at agrees
    obtain ⟨other, fullGiven⟩ := within.same given
    obtain ⟨reply, replied, answered⟩ := answered_at start fullGiven
    obtain ⟨keptReply, keptReplied, keptAnswered⟩ :=
      answered_at (Session.start named otherSystem) given
    exact ⟨reply, keptReply, replied, keptReplied,
      (agrees.selected answered keptAnswered).1⟩

def throwOne (identifier generator : String) : Stamp × Order :=
  ({ identifier, time := "", nonce := "" },
    { text := "d6", generator := some generator, settings := {} })

/-- A blank text and an order of another generator come between two orders of
one generator. -/
def interleaved : List (Stamp × Order) :=
  [throwOne "first" "left",
    ((throwOne "second" "left").1, { (throwOne "" "left").2 with text := " " }),
    throwOne "third" "right", throwOne "fourth" "left"]

theorem answers_isolated_interleaved :
    let named := [("left", Generator.scripted (.ofFaces [3, 5])),
      ("right", .scripted (.ofFaces [1]))]
    let kept := [throwOne "fifth" "left", throwOne "sixth" "left"]
    Within (fun index => if index = 0 then 0 else index + 2) kept interleaved ∧
      ∃ reply keptReply,
        ((start named .lowest).answers interleaved).1[3]? = some reply ∧
        ((start named .lowest).answers kept).1[1]? = some keptReply ∧
        reply.map Report.unstamped = keptReply.map Report.unstamped := by
  intro named kept
  have within : Within (fun index => if index = 0 then 0 else index + 2) kept
      interleaved := by
    constructor
    · intro first second before
      grind
    · intro index stamp order given
      match index with
      | 0 | 1 =>
          cases given
          exact ⟨_, rfl⟩
      | _ + 2 => cases given
  refine ⟨within, ?_⟩
  refine (answers_isolated named .lowest interleaved).2.2.2 .lowest kept _ 1 _ _
    within rfl (by decide) ?_
  intro moment stamp other given leftOut
  match moment with
  | 0 => exact absurd rfl (leftOut 0 (by decide))
  | 1 => exact .inl ⟨.blank, rfl⟩
  | 2 =>
      cases given
      exact .inr (by decide)
  | 3 => exact absurd rfl (leftOut 1 (by decide))
  | _ + 4 => cases given

end Session

end DiceRoller
