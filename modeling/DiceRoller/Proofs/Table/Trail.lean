import DiceRoller.Proofs.Report.Results

/-!
# The trail of throws

As rolls are thrown, every die is written down with the face that it shows,
and every term with its total once all its dice have shown theirs.  Nothing
that was written down before is touched.
-/

namespace DiceRoller

open Source (draws draws_append length_draws)

/-- The trail of terms whose dice show the faces in order: of each term one
mark for every die and one for its total. -/
def Term.trail {mark : Type} (shown : Nat → Int → mark)
    (thrown : Term → Int → mark) : List Term → List Int → List mark
  | [], _ => []
  | term :: later, faces =>
      (faces.take term.count).map (shown term.sides) ++
        thrown term ((faces.take term.count).sum + term.bonus) ::
          trail shown thrown later (faces.drop term.count)

namespace Term

variable {mark other : Type} (shown : Nat → Int → mark)
  (thrown : Term → Int → mark)

theorem map_trail (translate : mark → other) (terms : List Term)
    (faces : List Int) :
    (trail shown thrown terms faces).map translate =
      trail (fun sides face => translate (shown sides face))
        (fun term total => translate (thrown term total)) terms faces := by
  induction terms generalizing faces with
  | nil => rfl
  | cons term later induction =>
      rw [trail, List.map_append, List.map_map, List.map_cons, induction]
      rfl

variable {σ : Type} [Source σ]

theorem trail_draws_cons (term : Term) (later : List Term) (state : σ) :
    trail shown thrown (term :: later)
        (draws ((term :: later).flatMap dice) state).1 =
      (draws term.dice state).1.map (shown term.sides) ++
        thrown term ((draws term.dice state).1.sum + term.bonus) ::
          trail shown thrown later
            (draws (later.flatMap dice) (draws term.dice state).2).1 := by
  have length : (draws term.dice state).1.length = term.count := by
    rw [length_draws, dice, List.length_replicate]
  rw [List.flatMap_cons, draws_append, trail, List.take_left' length,
    List.drop_left' length]

/-- The trail of terms goes on from the state that the first of them leave. -/
theorem trail_draws_append (first later : List Term) (state : σ) :
    trail shown thrown (first ++ later)
        (draws ((first ++ later).flatMap dice) state).1 =
      trail shown thrown first (draws (first.flatMap dice) state).1 ++
        trail shown thrown later
          (draws (later.flatMap dice)
            (draws (first.flatMap dice) state).2).1 := by
  induction first generalizing state with
  | nil => rfl
  | cons term others induction =>
      rw [List.cons_append, trail_draws_cons, trail_draws_cons, induction,
        List.flatMap_cons, draws_append, List.append_assoc, List.cons_append]

end Term

/-- What is written down as the dice of terms show the faces in order. -/
def Term.events (terms : List Term) (faces : List Int) : List Event :=
  trail Event.shown Event.thrown terms faces

theorem Term.events_draws_append {σ : Type} [Source σ]
    (first later : List Term) (state : σ) :
    events (first ++ later)
        (draws ((first ++ later).flatMap dice) state).1 =
      events first (draws (first.flatMap dice) state).1 ++
        events later
          (draws (later.flatMap dice)
            (draws (first.flatMap dice) state).2).1 :=
  trail_draws_append Event.shown Event.thrown first later state

/-- The face that a die has shown. -/
def Event.face? : Event → Option Int
  | .shown _ face => some face
  | _ => none

/-- The faces that are written down are those that are drawn, in order. -/
theorem Term.filterMap_events_draws {σ : Type} [Source σ] (terms : List Term)
    (state : σ) :
    (events terms (draws (terms.flatMap dice) state).1).filterMap
        Event.face? =
      (draws (terms.flatMap dice) state).1 := by
  induction terms generalizing state with
  | nil => rfl
  | cons term later induction =>
      have each (faces : List Int) :
          (faces.map (Event.shown term.sides)).filterMap Event.face? =
            faces := by
        simp [List.filterMap_map, Function.comp_def, Event.face?]
      rw [events, trail_draws_cons, List.filterMap_append, each,
        List.filterMap_cons_none rfl, ← events, induction, List.flatMap_cons,
        draws_append]

namespace Table

variable {σ : Type} [Source σ]

theorem journal_throwDice (sides count : Nat) (shown : List Int)
    (table : Table σ) :
    (throwDice sides count shown table).2.journal.toList =
      table.journal.toList ++
        (draws (.replicate count sides) table.source).1.map
          (Event.shown sides) := by
  induction count generalizing shown table with
  | zero => simp [throwDice]
  | succ count induction =>
      rw [throwDice, induction, List.replicate_succ, draws]
      simp [throwDie]

theorem journal_throwTerm (term : Term) (table : Table σ) :
    (table.throwTerm term).2.journal.toList =
      table.journal.toList ++
        Term.events [term] (draws ([term].flatMap Term.dice)
          table.source).1 := by
  have shown := journal_throwDice term.sides term.count [] table
  obtain ⟨faces, _⟩ := throwDice_eq term.sides term.count [] table
  rw [List.reverse_nil, List.nil_append] at faces
  rw [Term.events, Term.trail_draws_cons]
  simp only [throwTerm, write, Array.toList_push, shown, faces,
    List.append_assoc]
  rfl

theorem journal_throwRoll (roll : Roll) (table : Table σ) :
    (table.throwRoll roll).2.journal.toList =
      table.journal.toList ++
        Term.events roll.terms (draws roll.dice table.source).1 := by
  induction roll generalizing table with
  | single term =>
      rw [throwRoll, journal_throwTerm, Roll.dice, Roll.terms_single]
  | joined left right leftInduction rightInduction =>
      -- The right side is thrown at the table that the left side leaves.
      rw [throwRoll, rightInduction, leftInduction, (throwRoll_eq left table).2,
        List.append_assoc]
      simp only [Roll.dice, Roll.terms_joined, Term.events_draws_append]

theorem journal_throwRolls (rolls : List Roll) (table : Table σ) :
    (throwRolls rolls table).2.journal.toList =
      table.journal.toList ++
        Term.events (rolls.flatMap Roll.terms)
          (draws (rolls.flatMap Roll.dice) table.source).1 := by
  induction rolls generalizing table with
  | nil => exact (List.append_nil _).symm
  | cons roll later induction =>
      obtain ⟨_, _, step⟩ := throwRolls_cons roll later table
      rw [step, induction, journal_throwRoll, (throwRoll_eq roll table).2,
        List.append_assoc, Roll.flatMap_dice, Roll.flatMap_dice,
        List.flatMap_cons, Term.events_draws_append]
      rfl

/-- All dice are written down in front of the report. -/
theorem journal_throwRequest (request : Request) (provenance : Provenance)
    (stamp : Stamp) (table : Table σ) {report : Report}
    (thrown : (table.throwRequest provenance stamp request).1 = .ok report) :
    (table.throwRequest provenance stamp request).2.journal.toList =
      table.journal.toList ++
        (Term.events (request.rolls.flatMap Roll.terms)
            (draws request.dice table.source).1 ++
          [.answered stamp.identifier report.descriptions report.totals]) := by
  have written := journal_throwRolls request.rolls table
  unfold throwRequest at thrown ⊢
  generalize throwRolls request.rolls table = rolled at thrown written
  obtain ⟨_ | results, after⟩ := rolled
  · cases thrown
  · cases thrown
    simp only [write, Array.toList_push]
    rw [written, List.append_assoc]
    rfl

end Table

end DiceRoller
