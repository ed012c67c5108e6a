import DiceRoller.Cursor.Run
import DiceRoller.Proofs.Cursor.Advance
import Mathlib.Data.List.Perm.Basic
import Mathlib.Logic.Function.Basic

/-!
# Cursors that are changed in place

In a store each cursor has the number under which it was made and keeps it.  A
step drives one of them, which is changed in place, and the snapshots are the
numbers of the others.  A run is what is seen of a store: since no number comes
up twice, what is done to the driven cursor is not seen in a snapshot.
-/

namespace DiceRoller.Cursor

open Token (Blanks)

/-- The answer of a read that did not find what it looked for. -/
inductive Answer.Missed : Answer → Prop where
  | truth : Missed (.truth false)
  | number : Missed (.number none)

/-- Cursors by their numbers.  What stands at a number that no cursor was made
under does not count. -/
structure Store where
  cursorAt : Nat → Cursor
  driven : Nat
  snapshots : List Nat

namespace Store

/-- A store with one cursor at the beginning of a text. -/
def start (text : List Char) : Store :=
  { cursorAt := fun _ => ⟨text⟩, driven := 0, snapshots := [] }

/-- Besides the first cursor there is one for each snapshot. -/
def made (store : Store) : Nat :=
  store.snapshots.length + 1

def current (store : Store) : Cursor :=
  store.cursorAt store.driven

def put (store : Store) (number : Nat) (cursor : Cursor) : Store :=
  { store with cursorAt := Function.update store.cursorAt number cursor }

/-- Put the driven cursor where a read has left it. -/
def after {result : Type} (store : Store) (answer : result → Answer)
    (read : result × Cursor) : Answer × Store :=
  (answer read.1, store.put store.driven read.2)

/-- A copy of the driven cursor becomes the latest snapshot. -/
def keep (store : Store) : Store :=
  { store.put store.made store.current with
    snapshots := store.snapshots ++ [store.made] }

/-- Drive another cursor, and keep the driven one for a snapshot. -/
def drive (store : Store) (index number : Nat) : Store :=
  { store with
    driven := number
    snapshots := store.snapshots.set index store.driven }

def step (store : Store) : Step → Answer × Store
  | .atEnd => store.after .truth store.current.atEnd
  | .readUnsigned =>
      store.after (fun value => .number (value.map Int.ofNat))
        store.current.readUnsigned
  | .readSigned signRequired =>
      store.after .number (store.current.readSigned signRequired)
  | .accept literal => store.after .truth (store.current.accept literal)
  | .snapshot => (.text (String.ofList store.current.remaining), store.keep)
  | .restore index =>
      match store.snapshots[index]? with
      | none => (.nothing, store)
      | some number =>
          (.nothing, store.put store.driven (store.cursorAt number))
  | .swap index =>
      match store.snapshots[index]? with
      | none => (.nothing, store)
      | some number => (.nothing, store.drive index number)
  | .shown => (.text store.current.shown, store)

/-- The store after the steps. -/
def through (store : Store) (steps : List Step) : Store :=
  steps.foldl (fun store step => (store.step step).2) store

/-- The run that the cursors of a store are seen as. -/
def seen (store : Store) : Run :=
  { current := store.current
    snapshots := store.snapshots.map store.cursorAt }

/-- Each cursor that was made is either driven or a snapshot, and is so only
once. -/
def Separate (store : Store) : Prop :=
  (store.driven :: store.snapshots).Perm (List.range store.made)

variable {store next : Store} {step : Step} {answer : Answer} {number : Nat}

section Fields

variable (store : Store) (index number : Nat) (cursor : Cursor)

@[simp] theorem driven_put : (store.put number cursor).driven = store.driven :=
  rfl

@[simp] theorem snapshots_put :
    (store.put number cursor).snapshots = store.snapshots := rfl

@[simp] theorem cursorAt_put :
    (store.put number cursor).cursorAt number = cursor := by
  simp [put]

@[simp] theorem driven_keep : store.keep.driven = store.driven := rfl

@[simp] theorem snapshots_keep :
    store.keep.snapshots = store.snapshots ++ [store.made] := rfl

@[simp] theorem cursorAt_keep :
    store.keep.cursorAt = (store.put store.made store.current).cursorAt := rfl

@[simp] theorem driven_drive : (store.drive index number).driven = number := rfl

@[simp] theorem snapshots_drive :
    (store.drive index number).snapshots =
      store.snapshots.set index store.driven := rfl

@[simp] theorem cursorAt_drive :
    (store.drive index number).cursorAt = store.cursorAt := rfl

end Fields

theorem cursorAt_put_of_ne {other : Nat} (different : number ≠ other)
    (cursor : Cursor) :
    (store.put other cursor).cursorAt number = store.cursorAt number := by
  simp [put, different]

/-- Everything that a step can do: a read moves the driven cursor forward, and
only a return moves it anywhere else. -/
inductive Taken (store : Store) : Step → Answer → Store → Prop where
  | read {step : Step} {answer : Answer} {rest : Cursor} :
      Advances answer.Missed store.current rest →
      Taken store step answer (store.put store.driven rest)
  | keep : Taken store .snapshot
      (.text (String.ofList store.current.remaining)) store.keep
  | restore {index number : Nat} : store.snapshots[index]? = some number →
      Taken store (.restore index) .nothing
        (store.put store.driven (store.cursorAt number))
  | drive {index number : Nat} : store.snapshots[index]? = some number →
      Taken store (.swap index) .nothing (store.drive index number)
  | idle {step : Step} {answer : Answer} : ¬ answer.Missed →
      Taken store step answer store

theorem Taken.after {result : Type} {answer : result → Answer}
    {read : result × Cursor} {missed : Prop}
    (advances : Advances missed store.current read.2)
    (only : (answer read.1).Missed → missed) :
    store.Taken step (store.after answer read).1
      (store.after answer read).2 :=
  .read ⟨advances.suffix, fun miss => advances.skips (only miss)⟩

theorem taken (store : Store) (step : Step) :
    store.Taken step (store.step step).1 (store.step step).2 := by
  have idle : ¬ Answer.Missed .nothing := nofun
  cases step with
  | atEnd =>
      exact .after (advances_skipBlanks store.current True) fun _ => trivial
  | readUnsigned =>
      refine .after (advances_readUnsigned store.current) fun missed => ?_
      generalize store.current.readUnsigned.1 = value at missed
      cases value with
      | none => rfl
      | some value => cases missed
  | readSigned signRequired =>
      refine .after (advances_readSigned store.current signRequired)
        fun missed => ?_
      generalize (store.current.readSigned signRequired).1 = value at missed
      cases missed
      rfl
  | accept literal =>
      refine .after (advances_accept store.current literal) fun missed => ?_
      generalize (store.current.accept literal).1 = accepted at missed
      cases missed
      rfl
  | snapshot => exact .keep
  | restore index =>
      rw [Store.step]
      split
      · exact .idle idle
      · next known => exact .restore known
  | swap index =>
      rw [Store.step]
      split
      · exact .idle idle
      · next known => exact .drive known
  | shown => exact .idle nofun

theorem separate_start (text : List Char) : (start text).Separate :=
  List.Perm.refl [0]

theorem Separate.driven_not_mem (separate : store.Separate) :
    store.driven ∉ store.snapshots :=
  (List.nodup_cons.mp (separate.nodup_iff.mpr List.nodup_range)).1

theorem Separate.lt_made (separate : store.Separate)
    (member : number ∈ store.driven :: store.snapshots) :
    number < store.made :=
  List.mem_range.mp (separate.mem_iff.mp member)

theorem Separate.driven_ne_made (separate : store.Separate) :
    store.driven ≠ store.made :=
  Nat.ne_of_lt (separate.lt_made List.mem_cons_self)

theorem Taken.separate (taken : store.Taken step answer next)
    (separate : store.Separate) : next.Separate := by
  cases taken with
  | read advances => exact separate
  | keep =>
      have more := separate.append_right [store.made]
      rw [← List.range_succ] at more
      simpa [Separate, made] using more
  | restore known => exact separate
  | @drive index number known =>
      obtain ⟨inside, rfl⟩ := List.getElem?_eq_some_iff.mp known
      -- Both numbers are put in front of the snapshots that keep theirs.
      have others := List.set_perm_cons_eraseIdx inside store.driven
      have all := List.getElem_cons_eraseIdx_perm inside
      have changed := (others.cons _).trans
        ((List.Perm.swap store.driven _ _).trans (all.cons store.driven))
      simpa [Separate, made] using changed.trans separate
  | idle => exact separate

/-- Where every cursor is within a text, it stays there. -/
theorem Taken.within {text : List Char}
    (taken : store.Taken step answer next)
    (within : ∀ number, (store.cursorAt number).remaining <:+ text)
    (number : Nat) : (next.cursorAt number).remaining <:+ text := by
  have put (other : Nat) {cursor : Cursor}
      (here : cursor.remaining <:+ text) :
      ((store.put other cursor).cursorAt number).remaining <:+ text := by
    by_cases same : number = other
    · rwa [same, cursorAt_put]
    · rw [cursorAt_put_of_ne same]
      exact within number
  cases taken with
  | read advances => exact put _ (advances.suffix.trans (within _))
  | keep => exact put _ (within _)
  | restore known => exact put _ (within _)
  | drive known => exact within number
  | idle => exact within number

/-- A step that misses drops only blanks from what the driven cursor has in
front of it. -/
theorem Taken.of_missed (taken : store.Taken step answer next)
    (missed : answer.Missed) :
    ∃ blanks, Blanks blanks ∧ store.current.remaining =
      blanks ++ (next.cursorAt store.driven).remaining := by
  cases taken with
  | read advances =>
      rw [cursorAt_put]
      exact advances.blanks missed
  | keep => cases missed
  | restore known => cases missed
  | drive known => cases missed
  | idle hit => exact absurd missed hit

theorem Taken.forward (taken : store.Taken step answer next)
    (separate : store.Separate) (stays : ∀ index, step ≠ .restore index) :
    (next.cursorAt store.driven).remaining <:+ store.current.remaining := by
  cases taken with
  | read advances =>
      rw [cursorAt_put]
      exact advances.suffix
  | keep =>
      rw [cursorAt_keep, cursorAt_put_of_ne separate.driven_ne_made]
      exact List.suffix_rfl
  | restore known => exact absurd rfl (stays _)
  | drive known => exact List.suffix_rfl
  | idle => exact List.suffix_rfl

theorem Taken.others (taken : store.Taken step answer next)
    (before : number < store.made) (other : number ≠ store.driven) :
    next.cursorAt number = store.cursorAt number := by
  cases taken with
  | read advances => exact cursorAt_put_of_ne other _
  | keep => exact cursorAt_put_of_ne (Nat.ne_of_lt before) _
  | restore known => exact cursorAt_put_of_ne other _
  | drive known => rfl
  | idle => rfl

section Seen

theorem seen_put (separate : store.Separate) (cursor : Cursor) :
    (store.put store.driven cursor).seen =
      { store.seen with current := cursor } := by
  have same : store.snapshots.map (store.put store.driven cursor).cursorAt =
      store.snapshots.map store.cursorAt := by
    refine List.map_congr_left fun number member => ?_
    refine cursorAt_put_of_ne ?_ cursor
    rintro rfl
    exact separate.driven_not_mem member
  simp [seen, current, same]

theorem seen_keep (separate : store.Separate) :
    store.keep.seen =
      { store.seen with
        snapshots := store.seen.snapshots ++ [store.current] } := by
  -- The copy has a new number, so that no other cursor is lost under it.
  have same (number : Nat) (member : number ∈ store.driven :: store.snapshots) :
      (store.put store.made store.current).cursorAt number =
        store.cursorAt number :=
    cursorAt_put_of_ne (Nat.ne_of_lt (separate.lt_made member)) _
  have others := List.map_congr_left fun number member =>
    same number (List.mem_cons_of_mem _ member)
  rw [seen, current, cursorAt_keep, driven_keep, snapshots_keep,
    List.map_append, List.map_singleton, others,
    same store.driven List.mem_cons_self, cursorAt_put]
  rfl

theorem seen_drive (index number : Nat) :
    (store.drive index number).seen =
      { current := store.cursorAt number
        snapshots := store.seen.snapshots.set index store.current } := by
  simp [seen, current, List.map_set]

/-- A step of a store is seen as the step of a run. -/
theorem seen_step (separate : store.Separate) (step : Step) :
    store.seen.step step = ((store.step step).1, (store.step step).2.seen) := by
  have read {result : Type} (answer : result → Answer)
      (found : result × Cursor) :
      store.seen.after answer found =
        ((store.after answer found).1, (store.after answer found).2.seen) := by
    rw [after, seen_put separate]
    rfl
  cases step with
  | atEnd => exact read _ _
  | readUnsigned =>
      exact read (fun value : Option Nat => .number (value.map Int.ofNat)) _
  | readSigned signRequired => exact read _ _
  | accept literal => exact read _ _
  | snapshot =>
      rw [Store.step, seen_keep separate]
      rfl
  | restore index =>
      cases known : store.snapshots[index]? with
      | none => simp [Store.step, Run.step, seen, known]
      | some number =>
          simp only [Store.step, known, seen_put separate]
          simp [Run.step, seen, known]
  | swap index =>
      cases known : store.snapshots[index]? with
      | none =>
          have outside := List.getElem?_eq_none_iff.mp known
          simp [Store.step, Run.step, seen, List.set_eq_of_length_le, outside]
      | some number =>
          simp only [Store.step, known, seen_drive]
          simp [Run.step, seen, known]
  | shown => rfl

end Seen

end Store

end DiceRoller.Cursor
