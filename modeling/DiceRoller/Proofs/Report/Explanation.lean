import DiceRoller.Proofs.Report.Mismatch
import DiceRoller.Proofs.Report.Place
import DiceRoller.Proofs.Table.Sequence

/-!
# What explanations tell

An outcome is explained by every roll that is nested as it is.  Any other roll
is told the first place, in a walk that takes left sides first, where one of
the two has sides and the other has none.
-/

namespace DiceRoller

open Nested (part? DiffersAt FirstDiffersAt SameShape)

namespace Roll

/-- The explanation of an outcome by a roll: there is a text if they differ
nowhere, and else their parts at the first place where they differ. -/
inductive Explained (roll : Roll) (outcome : Outcome) :
    Except Mismatch String → Prop where
  | text {text : String} :
      (∀ place, ¬ DiffersAt roll outcome place) →
      Explained roll outcome (.ok text)
  | mismatch {mismatch : Mismatch} {place : Place} :
      FirstDiffersAt roll outcome place →
      part? roll place = some mismatch.roll →
      part? outcome place = some mismatch.outcome →
      Explained roll outcome (.error mismatch)

theorem explained_root {roll : Roll} {outcome : Outcome}
    (differ : (Nested.sides? roll).isSome ≠ (Nested.sides? outcome).isSome) :
    Explained roll outcome (.error { roll, outcome }) :=
  .mismatch (.root differ) rfl rfl

theorem explained (roll : Roll) (outcome : Outcome) :
    Explained roll outcome (roll.explain outcome) := by
  induction roll generalizing outcome with
  | single term =>
      cases outcome with
      | single faces bonus =>
          exact .text (Nested.not_differsAt_of_none rfl rfl)
      | joined left right => exact explained_root Bool.false_ne_true
  | joined left right leftInduction rightInduction =>
      cases outcome with
      | single faces bonus => exact explained_root Bool.false_ne_true.symm
      | joined leftOutcome rightOutcome =>
          have leftExplained := leftInduction leftOutcome
          have rightExplained := rightInduction rightOutcome
          rw [explain]
          generalize left.explain leftOutcome = leftReply at leftExplained
          generalize right.explain rightOutcome = rightReply
            at rightExplained
          cases leftExplained with
          | mismatch differs rollPart outcomePart =>
              exact .mismatch (.left rfl rfl differs) rollPart outcomePart
          | text leftAgree =>
              -- The right side is looked at only if the left side agrees.
              cases rightExplained with
              | mismatch differs rollPart outcomePart =>
                  exact .mismatch (.right rfl rfl leftAgree differs) rollPart
                    outcomePart
              | text rightAgree =>
                  exact .text
                    (Nested.not_differsAt_of_sides rfl rfl leftAgree rightAgree)

theorem explain_eq_error_iff {roll : Roll} {outcome : Outcome}
    {mismatch : Mismatch} :
    roll.explain outcome = .error mismatch ↔
      ∃ place, FirstDiffersAt roll outcome place ∧
        part? roll place = some mismatch.roll ∧
        part? outcome place = some mismatch.outcome := by
  have explained := explained roll outcome
  constructor
  · intro failed
    rw [failed] at explained
    cases explained with
    | mismatch differs rollPart outcomePart =>
        exact ⟨_, differs, rollPart, outcomePart⟩
  · rintro ⟨place, differs, rollPart, outcomePart⟩
    generalize roll.explain outcome = reply at explained
    cases explained with
    | text agree => exact absurd differs.differs (agree place)
    | @mismatch told _ toldDiffers toldRoll toldOutcome =>
        cases toldDiffers.unique differs
        have sameRoll := Option.some.inj (toldRoll.symm.trans rollPart)
        have sameOutcome := Option.some.inj (toldOutcome.symm.trans outcomePart)
        cases told
        cases mismatch
        cases sameRoll
        cases sameOutcome
        rfl

theorem exists_text_iff {roll : Roll} {outcome : Outcome} :
    (∃ text, roll.explain outcome = .ok text) ↔ SameShape roll outcome := by
  have explained := explained roll outcome
  rw [Nested.sameShape_iff]
  generalize roll.explain outcome = reply at explained
  cases explained with
  | text agree => exact ⟨fun _ => agree, fun _ => ⟨_, rfl⟩⟩
  | mismatch differs _ _ =>
      constructor
      · rintro ⟨text, impossible⟩
        cases impossible
      · intro agree
        exact absurd differs.differs (agree _)

/-- The outcome that a roll is thrown to is nested as the roll is. -/
theorem Shows.sameShape {roll : Roll} {faces : List Int} {outcome : Outcome}
    (shown : roll.Shows faces outcome) : SameShape roll outcome := by
  rw [Nested.sameShape_iff]
  induction shown with
  | single _ => exact Nested.not_differsAt_of_none rfl rfl
  | joined _ _ leftInduction rightInduction =>
      exact Nested.not_differsAt_of_sides rfl rfl leftInduction rightInduction

/-- A roll explains exactly the outcomes that are nested as it is, which are
those whose breakdown has the nesting of both; what it is thrown to is one of
them.  Of all others it tells the first place where the two differ, with what
they have there: the outcome and the terms of the roll are told by the text of
the error. -/
theorem explain_first_mismatch (roll : Roll) (outcome : Outcome) :
    ((∃ mismatch, roll.explain outcome = .error mismatch) ↔
        ∃ place, DiffersAt roll outcome place) ∧
      (∀ mismatch, roll.explain outcome = .error mismatch ↔
        ∃ place, FirstDiffersAt roll outcome place ∧
          part? roll place = some mismatch.roll ∧
          part? outcome place = some mismatch.outcome) ∧
      (∀ mismatch other : Mismatch, mismatch.message = other.message ↔
        mismatch.outcome = other.outcome ∧
          mismatch.roll.terms = other.roll.terms) ∧
      ((∃ text, roll.explain outcome = .ok text) ↔
        SameShape (roll.breakdown outcome) roll ∧
          SameShape (roll.breakdown outcome) outcome) ∧
      ∀ {σ : Type} [Source σ] (table : Table σ),
        ∃ text, roll.explain (table.throwRoll roll).1 = .ok text := by
  refine ⟨?_, fun _ => explain_eq_error_iff, Mismatch.message_eq_iff, ?_, ?_⟩
  · constructor
    · rintro ⟨mismatch, failed⟩
      obtain ⟨place, differs, _⟩ := explain_eq_error_iff.mp failed
      exact ⟨place, differs.differs⟩
    · rintro ⟨place, differs⟩
      cases reply : roll.explain outcome with
      | error mismatch => exact ⟨mismatch, rfl⟩
      | ok text =>
          have same := exists_text_iff.mp ⟨text, reply⟩
          exact absurd differs ((Nested.sameShape_iff _ _).mp same place)
  · rw [exists_text_iff, sameShape_breakdown_iff]
  · intro σ _ table
    exact exists_text_iff.mpr (Table.shows_throwRoll roll table).sameShape

theorem explain_first_mismatch_leftmost :
    let told : Mismatch :=
      { roll := .single (.mk 1 4 (-2) Nat.one_pos (Nat.succ_pos 3))
        outcome := .joined (.single [3] (-2)) (.single [] 0) }
    DiffersAt Table.threeTerms strayOutcome [.right] ∧
      Table.threeTerms.explain strayOutcome = .error told ∧
      ¬ SameShape (Table.threeTerms.breakdown strayOutcome) strayOutcome := by
  intro told
  have first : FirstDiffersAt Table.threeTerms strayOutcome [.left, .right] :=
    .left rfl rfl (.right rfl rfl (Nested.not_differsAt_of_none rfl rfl)
      (.root Bool.false_ne_true))
  have second : DiffersAt Table.threeTerms strayOutcome [.right] :=
    ⟨_, _, rfl, rfl, Bool.false_ne_true⟩
  obtain ⟨_, tells, _⟩ :=
    explain_first_mismatch Table.threeTerms strayOutcome
  refine ⟨second, (tells told).mpr ⟨_, first, rfl, rfl⟩, ?_⟩
  intro same
  exact Bool.false_ne_true (same [.left, .right, .left])

end Roll

end DiceRoller
