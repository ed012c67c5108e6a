import DiceRoller.Proofs.Table.Recording
import Mathlib.Algebra.BigOperators.Group.List.Basic
import Mathlib.Algebra.Ring.Int.Defs

/-!
# The sequence of throws

A roll draws its dice in the order in which its terms are written, and every
term keeps the faces of its own dice.  How the roll is nested shows in the
nesting of its outcome and in nothing else.
-/

namespace DiceRoller

open Source (draws draws_append length_draws)

/-- The outcome is nested as the roll is and holds the faces in order: each
term has as many of them as it has dice, and its own bonus. -/
inductive Roll.Shows : Roll → List Int → Outcome → Prop where
  | single {term : Term} {faces : List Int} :
      faces.length = term.count →
      Shows (.single term) faces (.single faces term.bonus)
  | joined {left right : Roll} {leftFaces rightFaces : List Int}
      {leftOutcome rightOutcome : Outcome} :
      Shows left leftFaces leftOutcome →
      Shows right rightFaces rightOutcome →
      Shows (.joined left right) (leftFaces ++ rightFaces)
        (.joined leftOutcome rightOutcome)

/-- The bonuses of all terms together. -/
def Roll.bonus (roll : Roll) : Int :=
  (roll.terms.map Term.bonus).sum

theorem Outcome.total_eq (outcome : Outcome) :
    outcome.total = outcome.faces.sum + outcome.bonus := by
  induction outcome with
  | single faces bonus => rfl
  | joined left right leftInduction rightInduction =>
      rw [total, leftInduction, rightInduction, faces, bonus, List.sum_append]
      omega

namespace Roll

theorem bonus_single (term : Term) : (single term).bonus = term.bonus := by
  simp [bonus]

theorem bonus_joined (left right : Roll) :
    (joined left right).bonus = left.bonus + right.bonus := by
  simp [bonus]

theorem dice_eq_of_terms_eq {first second : Roll}
    (same : first.terms = second.terms) : first.dice = second.dice := by
  rw [dice, same, dice]

theorem bonus_eq_of_terms_eq {first second : Roll}
    (same : first.terms = second.terms) : first.bonus = second.bonus := by
  rw [bonus, same, bonus]

namespace Shows

variable {roll : Roll} {faces : List Int} {outcome : Outcome}

theorem faces_eq (shown : roll.Shows faces outcome) :
    outcome.faces = faces := by
  induction shown with
  | single _ => rfl
  | joined _ _ leftInduction rightInduction =>
      rw [Outcome.faces, leftInduction, rightInduction]

theorem bonus_eq (shown : roll.Shows faces outcome) :
    outcome.bonus = roll.bonus := by
  induction shown with
  | single _ => exact (bonus_single _).symm
  | joined _ _ leftInduction rightInduction =>
      rw [Outcome.bonus, leftInduction, rightInduction, bonus_joined]

end Shows

end Roll

namespace Table

variable {σ : Type} [Source σ]

theorem shows_throwRoll (roll : Roll) (table : Table σ) :
    roll.Shows (draws roll.dice table.source).1 (table.throwRoll roll).1 := by
  induction roll generalizing table with
  | single term =>
      rw [Roll.dice_single, throwRoll, (throwTerm_eq term table).1]
      apply Roll.Shows.single
      rw [length_draws, Term.dice, List.length_replicate]
  | joined left right leftInduction rightInduction =>
      -- The right side draws from the source that the left side leaves.
      have rightShown := rightInduction (table.throwRoll left).2
      rw [(throwRoll_eq left table).2] at rightShown
      rw [Roll.dice_joined, draws_append]
      exact .joined (leftInduction table) rightShown

theorem faces_throwRoll (roll : Roll) (table : Table σ) :
    (table.throwRoll roll).1.faces = (draws roll.dice table.source).1 :=
  (shows_throwRoll roll table).faces_eq

theorem bonus_throwRoll (roll : Roll) (table : Table σ) :
    (table.throwRoll roll).1.bonus = roll.bonus :=
  (shows_throwRoll roll table).bonus_eq

theorem total_throwRoll (roll : Roll) (table : Table σ) :
    (table.throwRoll roll).1.total =
      (draws roll.dice table.source).1.sum + roll.bonus := by
  rw [Outcome.total_eq, faces_throwRoll, bonus_throwRoll]

/-- A record has no part in what is thrown, and the calls for the dice of the
roll are added to it in order. -/
theorem throwRoll_recording (roll : Roll) (table : Table σ) :
    (table.recording.throwRoll roll).1 = (table.throwRoll roll).1 ∧
      (table.recording.throwRoll roll).2.source =
        { state := (draws roll.dice table.source).2
          drawn := roll.terms.flatMap Term.calls } := by
  obtain ⟨recordedOutcome, recordedSource⟩ := throwRoll_eq roll table.recording
  rw [Recorded.draws_eq] at recordedOutcome recordedSource
  rw [recordedOutcome, recordedSource, (throwRoll_eq roll table).1,
    ← Term.calls_dice]
  exact ⟨rfl, rfl⟩

/-- A roll draws the dice of its terms from left to right, each of them once by
a call for a number from one to its sides, and its outcome holds their faces in
the order drawn.  Rolls of the same terms make the same calls and come to the
same total, however they are nested. -/
theorem throwRoll_sequence (roll : Roll) (table : Table σ) :
    let thrown := table.throwRoll roll
    let recorded := table.recording.throwRoll roll
    recorded.1 = thrown.1 ∧
      recorded.2.source.state = thrown.2.source ∧
      recorded.2.source.drawn = roll.terms.flatMap Term.calls ∧
      (thrown.1.faces, thrown.2.source) = draws roll.dice table.source ∧
      roll.Shows thrown.1.faces thrown.1 ∧
      thrown.1.bonus = roll.bonus ∧
      thrown.1.total = thrown.1.faces.sum + thrown.1.bonus ∧
      ∀ (other : Roll) (otherTable : Table σ),
        other.terms = roll.terms → otherTable.source = table.source →
        let otherThrown := otherTable.throwRoll other
        (otherTable.recording.throwRoll other).2.source = recorded.2.source ∧
          otherThrown.2.source = thrown.2.source ∧
          otherThrown.1.faces = thrown.1.faces ∧
          otherThrown.1.bonus = thrown.1.bonus ∧
          otherThrown.1.total = thrown.1.total := by
  intro thrown recorded
  have faces := faces_throwRoll roll table
  have source := (throwRoll_eq roll table).2
  obtain ⟨outcome, record⟩ := throwRoll_recording roll table
  refine ⟨outcome, ?_, ?_, Prod.ext faces source, ?_, bonus_throwRoll roll table,
    Outcome.total_eq thrown.1, ?_⟩
  · exact (congrArg Recorded.state record).trans source.symm
  · exact congrArg Recorded.drawn record
  · show roll.Shows (table.throwRoll roll).1.faces (table.throwRoll roll).1
    rw [faces]
    exact shows_throwRoll roll table
  · intro other otherTable sameTerms sameSource otherThrown
    have sameDice := Roll.dice_eq_of_terms_eq sameTerms
    have sameBonus := Roll.bonus_eq_of_terms_eq sameTerms
    refine ⟨?_, ?_, ?_, ?_, ?_⟩
    · rw [(throwRoll_recording other otherTable).2, sameDice, sameSource,
        sameTerms]
      exact record.symm
    · rw [(throwRoll_eq other otherTable).2, sameDice, sameSource]
      exact source.symm
    · rw [faces_throwRoll, sameDice, sameSource]
      exact faces.symm
    · rw [bonus_throwRoll, sameBonus]
      exact (bonus_throwRoll roll table).symm
    · rw [total_throwRoll, sameDice, sameSource, sameBonus]
      exact (total_throwRoll roll table).symm

/-- Two dice, one die and one die, joined from the left. -/
def threeTerms : Roll :=
  .joined
    (.joined (.single (.mk 2 6 1 (Nat.succ_pos 1) (Nat.succ_pos 5)))
      (.single (.mk 1 4 (-2) Nat.one_pos (Nat.succ_pos 3))))
    (.single (.mk 1 8 0 Nat.one_pos (Nat.succ_pos 7)))

theorem throwRoll_sequence_renested :
    let table : Table Generator :=
      { source := .scripted (.ofFaces [9, -3, 0, 5]), journal := #[] }
    threeTerms.renested.terms = threeTerms.terms ∧
      (table.recording.throwRoll threeTerms).2.source.drawn =
        [(1, 6), (1, 6), (1, 4), (1, 8)] ∧
      (table.throwRoll threeTerms).1.faces = [9, -3, 0, 5] ∧
      (table.throwRoll threeTerms.renested).1.faces = [9, -3, 0, 5] ∧
      (table.throwRoll threeTerms.renested).1.total = 10 := by
  intro table
  have terms := threeTerms.terms_renested
  have calls : threeTerms.terms.flatMap Term.calls =
      [(1, 6), (1, 6), (1, 4), (1, 8)] := by decide +kernel
  have faces : (table.throwRoll threeTerms).1.faces = [9, -3, 0, 5] := by
    decide +kernel
  have total : (table.throwRoll threeTerms).1.total = 10 := by decide +kernel
  obtain ⟨_, _, drawn, _, _, _, _, renested⟩ :=
    throwRoll_sequence threeTerms table
  obtain ⟨_, _, sameFaces, _, sameTotal⟩ :=
    renested threeTerms.renested table terms rfl
  exact ⟨terms, drawn.trans calls, faces, sameFaces.trans faces,
    sameTotal.trans total⟩

end Table

end DiceRoller
