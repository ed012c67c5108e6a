import DiceRoller.Proofs.Report.Explanation
import DiceRoller.Proofs.Roll.Description
import DiceRoller.Random.Generator
import DiceRoller.Report

/-!
# Explanations tell everything

The explanation of an outcome tells the roll and the outcome.  The brackets
tell the sides of a join from each other, and the bonus of an outcome, which
is not written, is what its total exceeds its faces by.
-/

namespace DiceRoller

open Nested (SameShape)
open Term (EndsTerm)
open Text (Unambiguous unambiguous_integer)
open Token (Apart SignFree)

/-- A listing ends at its bracket, since faces are written without any. -/
theorem unambiguous_faces :
    Unambiguous (fun _ => True)
      (fun faces : List Int => Text.bracketed (faces.map toString))
      (fun _ => True) := by
  have goesOn (later : String) : Apart (", " ++ later).toList := by
    simp [Apart]
  have closes (later : String) : Apart ("]" ++ later).toList := by
    simp [Apart]
  have unsigned (later other : String) : "-" ++ later ≠ "]" ++ other := by
    intro same
    have marks := congrArg String.toList same
    simp at marks
  have clear := unambiguous_integer.bracketed goesOn closes
    (Text.integer_ne_mark closes unsigned)
  intro faces others rest other _ _ _ _ same
  exact clear (fun _ _ => trivial) (fun _ _ => trivial) trivial trivial same

namespace Roll

/-- The text that a roll explains an outcome of its own shape by. -/
inductive Tells : Roll → Outcome → String → Prop where
  | single (term : Term) (faces : List Int) (bonus : Int) :
      Tells (.single term) (.single faces bonus)
        (term.describe ++ ": rolls " ++
          Text.bracketed (faces.map toString) ++ " => " ++
          toString (Outcome.single faces bonus).total)
  | joined {left right : Roll} {leftOutcome rightOutcome : Outcome}
      {leftText rightText : String} :
      Tells left leftOutcome leftText → Tells right rightOutcome rightText →
      Tells (.joined left right) (.joined leftOutcome rightOutcome)
        ("(" ++ leftText ++ ") & (" ++ rightText ++ ") => " ++
          toString (Outcome.joined leftOutcome rightOutcome).total)

theorem describe_single (term : Term) :
    (single term).describe = term.describe := by
  simp [describe]

theorem tells_of_explain {roll : Roll} {outcome : Outcome} {text : String}
    (explained : roll.explain outcome = .ok text) :
    roll.Tells outcome text := by
  induction roll generalizing outcome text with
  | single term =>
      cases outcome with
      | single faces bonus =>
          cases explained
          rw [describe_single]
          exact .single term faces bonus
      | joined left right => cases explained
  | joined left right leftInduction rightInduction =>
      cases outcome with
      | single faces bonus => cases explained
      | joined leftOutcome rightOutcome =>
          rw [explain] at explained
          split at explained
          · cases explained
          · next leftText leftExplained =>
              split at explained
              · cases explained
              · next rightText rightExplained =>
                  cases explained
                  exact .joined (leftInduction leftExplained)
                    (rightInduction rightExplained)

namespace Tells

variable {roll otherRoll : Roll} {outcome otherOutcome : Outcome}
  {text otherText : String}

theorem single_eq {term otherTerm : Term} {faces otherFaces : List Int}
    {bonus otherBonus : Int} {rest other : String} (ends : Apart rest.toList)
    (otherEnds : Apart other.toList)
    (same : term.describe ++ ": rolls " ++
        Text.bracketed (faces.map toString) ++ " => " ++
        toString (Outcome.single faces bonus).total ++ rest =
      otherTerm.describe ++ ": rolls " ++
        Text.bracketed (otherFaces.map toString) ++ " => " ++
        toString (Outcome.single otherFaces otherBonus).total ++ other) :
    term = otherTerm ∧ faces = otherFaces ∧ bonus = otherBonus ∧
      rest = other := by
  have endsTerm (later : String) : EndsTerm (": rolls " ++ later) := by
    constructor
    · simp [Apart]
    · simp [SignFree]
  simp only [String.append_assoc] at same
  obtain ⟨sameTerm, afterTerm⟩ := Term.unambiguous_describe trivial trivial
    (endsTerm _) (endsTerm _) same
  obtain ⟨rfl, afterFaces⟩ := unambiguous_faces trivial trivial trivial trivial
    ((String.append_right_inj ": rolls ").mp afterTerm)
  obtain ⟨sameTotal, remaining⟩ := unambiguous_integer trivial trivial ends
    otherEnds ((String.append_right_inj " => ").mp afterFaces)
  exact ⟨sameTerm, rfl, Int.add_left_cancel sameTotal, remaining⟩

/-- The text of a term begins with its count and that of a join with a
bracket. -/
theorem single_ne_joined (term : Term) (later other : String) :
    term.describe ++ later ≠ "(" ++ other := by
  intro same
  have bracket : Apart ("(" ++ other).toList := by simp [Apart]
  rw [← same] at bracket
  simp only [Term.describe, String.append_assoc] at bracket
  exact Text.not_apart_natural term.count _ bracket

theorem eq_of_append_eq (tells : roll.Tells outcome text)
    (otherTells : otherRoll.Tells otherOutcome otherText)
    {rest other : String} (ends : Apart rest.toList)
    (otherEnds : Apart other.toList)
    (same : text ++ rest = otherText ++ other) :
    roll = otherRoll ∧ outcome = otherOutcome ∧ rest = other := by
  induction tells generalizing otherRoll otherOutcome otherText rest other with
  | single term faces bonus =>
      cases otherTells with
      | single otherTerm otherFaces otherBonus =>
          obtain ⟨rfl, rfl, rfl, rfl⟩ := single_eq ends otherEnds same
          exact ⟨rfl, rfl, rfl⟩
      | joined otherLeft otherRight =>
          simp only [String.append_assoc] at same
          exact absurd same (single_ne_joined _ _ _)
  | joined left right leftInduction rightInduction =>
      cases otherTells with
      | single otherTerm otherFaces otherBonus =>
          simp only [String.append_assoc] at same
          exact absurd same.symm (single_ne_joined _ _ _)
      | joined otherLeft otherRight =>
          have between (later : String) :
              Apart (") & (" ++ later).toList := by simp [Apart]
          have behind (later : String) :
              Apart (") => " ++ later).toList := by simp [Apart]
          simp only [String.append_assoc, String.append_right_inj] at same
          obtain ⟨rfl, rfl, afterLeft⟩ :=
            leftInduction otherLeft (between _) (between _) same
          obtain ⟨rfl, rfl, afterRight⟩ :=
            rightInduction otherRight (behind _) (behind _)
              ((String.append_right_inj ") & (").mp afterLeft)
          obtain ⟨_, remaining⟩ := unambiguous_integer trivial trivial ends
            otherEnds ((String.append_right_inj ") => ").mp afterRight)
          exact ⟨rfl, rfl, remaining⟩

end Tells

/-- An explanation tells its roll and outcome, and where it ends. -/
theorem unambiguous_explanation :
    Unambiguous
      (fun told : (Roll × Outcome) × String =>
        told.1.1.explain told.1.2 = .ok told.2)
      Prod.snd
      (fun rest => Apart rest.toList) := by
  intro told otherTold rest other explained otherExplained ends otherEnds equal
  obtain ⟨roll, outcome, remaining⟩ :=
    (tells_of_explain explained).eq_of_append_eq
      (tells_of_explain otherExplained) ends otherEnds equal
  have pair : told.1 = otherTold.1 := Prod.ext roll outcome
  rw [pair, otherExplained] at explained
  exact ⟨Prod.ext pair (Except.ok.inj explained).symm, remaining⟩

/-- A roll and an outcome of its shape have an explanation, which no others
have.  Nor do any other rolls and outcomes have the same explanations one
after the other. -/
theorem explanation_recovers :
    (∀ (roll : Roll) (outcome : Outcome), SameShape roll outcome →
      ∃ text, roll.explain outcome = .ok text) ∧
    (∀ (roll other : Roll) (outcome otherOutcome : Outcome),
      SameShape roll outcome → SameShape other otherOutcome →
      roll.explain outcome = other.explain otherOutcome →
        roll = other ∧ outcome = otherOutcome) ∧
    ∀ (pairs others : List (Roll × Outcome)) (texts otherTexts : List String),
      pairs ≠ [] → others ≠ [] →
      List.Forall₂ (fun pair text => pair.1.explain pair.2 = .ok text) pairs
        texts →
      List.Forall₂ (fun pair text => pair.1.explain pair.2 = .ok text) others
        otherTexts →
      "; ".intercalate texts = "; ".intercalate otherTexts →
        pairs = others := by
  have ends : Apart "".toList := by simp [Apart]
  have goesOn (later : String) : Apart ("; " ++ later).toList := by
    simp [Apart]
  refine ⟨fun _ _ => exists_text_iff.mpr, ?_, ?_⟩
  · intro roll other outcome otherOutcome same _ equal
    obtain ⟨text, explained⟩ := exists_text_iff.mpr same
    have otherExplained := equal.symm.trans explained
    have told : ((roll, outcome), text) = ((other, otherOutcome), text) :=
      unambiguous_explanation.eq_of_eq ends explained otherExplained rfl
    exact Prod.mk.inj (Prod.mk.inj told).1
  · intro pairs others texts otherTexts nonempty otherNonempty each otherEach
      equal
    -- Each pair is put beside its own text.
    obtain ⟨length, explained⟩ := List.forall₂_iff_zip.mp each
    obtain ⟨otherLength, otherExplained⟩ := List.forall₂_iff_zip.mp otherEach
    have told : pairs.zip texts = others.zip otherTexts := by
      refine unambiguous_explanation.eq_of_intercalate_eq goesOn ends
        (by decide) ?_ ?_ (fun _ => explained) (fun _ => otherExplained) ?_
      · rw [← List.length_pos_iff, List.length_zip, ← length, Nat.min_self]
        exact List.length_pos_iff.mpr nonempty
      · rw [← List.length_pos_iff, List.length_zip, ← otherLength,
          Nat.min_self]
        exact List.length_pos_iff.mpr otherNonempty
      · rw [List.map_snd_zip (Nat.le_of_eq length.symm),
          List.map_snd_zip (Nat.le_of_eq otherLength.symm)]
        exact equal
    have both := congrArg (List.map Prod.fst) told
    rwa [List.map_fst_zip (Nat.le_of_eq length),
      List.map_fst_zip (Nat.le_of_eq otherLength)] at both

/-- What was thrown is found in its explanation, with a bonus of its own in
every term. -/
theorem explanation_recovers_thrown :
    let table : Table Generator :=
      { source := .scripted (.ofFaces [6, -1, 3, 8]), journal := #[] }
    let thrown := (table.throwRoll Table.threeTerms).1
    let told : Outcome :=
      .joined (.joined (.single [6, -1] 1) (.single [3] (-2)))
        (.single [8] 0)
    SameShape Table.threeTerms thrown ∧ SameShape Table.threeTerms told ∧
      thrown = told ∧
        [(Table.threeTerms, thrown), (Table.threeTerms, told)] =
          [(Table.threeTerms, told), (Table.threeTerms, thrown)] := by
  intro table thrown told
  have same : SameShape Table.threeTerms thrown :=
    (Table.shows_throwRoll Table.threeTerms table).sameShape
  have toldSame : SameShape Table.threeTerms told :=
    exists_text_iff.mp ⟨_, rfl⟩
  have equal : Table.threeTerms.explain thrown =
      Table.threeTerms.explain told := rfl
  obtain ⟨explains, one, all⟩ := explanation_recovers
  obtain ⟨text, explained⟩ := explains _ _ same
  have toldExplained := equal.symm.trans explained
  refine ⟨same, toldSame, (one _ _ _ _ same toldSame equal).2, ?_⟩
  exact all _ _ [text, text] [text, text] (by simp) (by simp)
    (.cons explained (.cons toldExplained .nil))
    (.cons toldExplained (.cons explained .nil)) rfl

end Roll

end DiceRoller
