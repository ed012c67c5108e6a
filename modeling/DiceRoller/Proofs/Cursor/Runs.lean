import DiceRoller.Proofs.Cursor.Store

/-!
# Runs stay within their text

In whatever order cursors are read, kept, restored and changed for each other,
what remains for each of them is an end of the text that the run began with.
-/

namespace DiceRoller.Cursor

open Token (Blanks)

variable {text : List Char}

namespace Run

/-- The run after the steps. -/
def through (run : Run) (steps : List Step) : Run :=
  steps.foldl (fun run step => (run.step step).2) run

theorem through_cons (run : Run) (step : Step) (later : List Step) :
    run.through (step :: later) = (run.step step).2.through later := rfl

/-- What an account of steps shows to remain is what remains after some of
them. -/
theorem exists_through_of_mem_steps {run : Run} {steps : List Step}
    {entry : Answer × String} (member : entry ∈ run.steps steps) :
    ∃ taken, taken <+: steps ∧
      entry.2.toList = (run.through taken).current.remaining := by
  induction steps generalizing run with
  | nil => cases member
  | cons step later induction =>
      rw [steps] at member
      rcases List.mem_cons.mp member with first | behind
      · rw [first]
        exact ⟨[step], by simp, String.toList_ofList⟩
      · obtain ⟨taken, begins, shown⟩ := induction behind
        exact ⟨step :: taken, (List.prefix_cons_inj step).mpr begins, shown⟩

end Run

namespace Store

/-- The cursors of the store are told apart, and are all within the text. -/
structure Sound (store : Store) (text : List Char) : Prop where
  separate : store.Separate
  within : ∀ number, (store.cursorAt number).remaining <:+ text

theorem sound_start (text : List Char) : (start text).Sound text where
  separate := separate_start text
  within _ := List.suffix_rfl

theorem Sound.step {store : Store} (sound : store.Sound text) (step : Step) :
    (store.step step).2.Sound text where
  separate := (store.taken step).separate sound.separate
  within := (store.taken step).within sound.within

theorem Sound.through {store : Store} (sound : store.Sound text)
    (steps : List Step) :
    (store.through steps).Sound text ∧
      (store.through steps).seen = store.seen.through steps := by
  induction steps generalizing store with
  | nil => exact ⟨sound, rfl⟩
  | cons step later induction =>
      obtain ⟨laterSound, laterSeen⟩ := induction (sound.step step)
      rw [Run.through_cons, seen_step sound.separate]
      exact ⟨laterSound, laterSeen⟩

theorem sound_through (text : List Char) (steps : List Step) :
    ((start text).through steps).Sound text :=
  ((sound_start text).through steps).1

theorem seen_through (text : List Char) (steps : List Step) :
    ((start text).through steps).seen = (Run.start text).through steps :=
  ((sound_start text).through steps).2

end Store

theorem Run.within_through (text : List Char) (steps : List Step) :
    ((Run.start text).through steps).current.remaining <:+ text ∧
      ∀ snapshot ∈ ((Run.start text).through steps).snapshots,
        snapshot.remaining <:+ text := by
  have within := (Store.sound_through text steps).within
  rw [← Store.seen_through]
  refine ⟨within _, fun snapshot member => ?_⟩
  obtain ⟨number, _, rfl⟩ := List.mem_map.mp member
  exact within number

/-- After any steps, what remains for the driven cursor and for each snapshot
is an end of the text.  The next step, seen on a store whose cursors are
changed in place, drops only blanks if it misses, goes back only to restore a
snapshot, and leaves all cursors but the driven one as they were. -/
theorem runs_within_text (text : List Char) (steps : List Step) (step : Step) :
    let run := (Run.start text).through steps
    let store := (Store.start text).through steps
    let answer := (store.step step).1
    let next := (store.step step).2
    (run.current.remaining <:+ text ∧
      (∀ snapshot ∈ run.snapshots, snapshot.remaining <:+ text) ∧
      ∀ entry ∈ (Run.start text).steps steps, entry.2.toList <:+ text) ∧
    (store.Separate ∧ store.seen = run ∧
      run.step step = (answer, next.seen)) ∧
    (answer.Missed → ∃ blanks, Blanks blanks ∧
      store.current.remaining =
        blanks ++ (next.cursorAt store.driven).remaining) ∧
    ((∀ index, step ≠ .restore index) →
      (next.cursorAt store.driven).remaining <:+ store.current.remaining) ∧
    ∀ number < store.made, number ≠ store.driven →
      next.cursorAt number = store.cursorAt number := by
  intro run store answer next
  have separate : store.Separate := (Store.sound_through text steps).separate
  have seen : store.seen = run := Store.seen_through text steps
  have taken : store.Taken step answer next := store.taken step
  have within := Run.within_through text steps
  refine ⟨⟨within.1, within.2, ?_⟩, ⟨separate, seen, ?_⟩, ?_, ?_, ?_⟩
  · intro entry member
    obtain ⟨earlier, _, shown⟩ := Run.exists_through_of_mem_steps member
    rw [shown]
    exact (Run.within_through text earlier).1
  · rw [← seen]
    exact Store.seen_step separate step
  · intro missed
    exact taken.of_missed missed
  · exact taken.forward separate
  · intro number before other
    exact taken.others before other

/-- A snapshot is driven in place of the first cursor, and misses a sign. -/
theorem runs_within_text_swapped :
    let store := (Store.start " 3x 2d6".toList).through
      [.snapshot, .readUnsigned, .accept ['x'], .swap 0]
    let next := (store.step (.readSigned true)).2
    (store.driven = 1 ∧ (store.step (.readSigned true)).1 = .number none) ∧
      (∃ blanks, Blanks blanks ∧
        store.current.remaining =
          blanks ++ (next.cursorAt store.driven).remaining) ∧
      (next.cursorAt store.driven).remaining <:+ store.current.remaining ∧
      next.cursorAt 0 = ⟨" 2d6".toList⟩ := by
  intro store next
  obtain ⟨_, _, missed, forward, others⟩ := runs_within_text " 3x 2d6".toList
    [.snapshot, .readUnsigned, .accept ['x'], .swap 0] (.readSigned true)
  have driven : store.driven = 1 := rfl
  have answer : (store.step (.readSigned true)).1 = .number none := by decide
  have first : store.cursorAt 0 = ⟨" 2d6".toList⟩ := by decide
  refine ⟨⟨driven, answer⟩, missed ?_, forward nofun, ?_⟩
  · rw [answer]
    exact .number
  · rw [← first]
    exact others 0 (by decide) (by decide)

end DiceRoller.Cursor
