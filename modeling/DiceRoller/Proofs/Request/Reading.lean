import DiceRoller.Report

/-!
# Reading requests

What a text is read to does not depend on what the journal tells already, and
a request that is read has the rolls that its text spells.
-/

namespace DiceRoller

namespace Notation

theorem readGroups_eq (text : String) (journal : Journal) :
    readGroups text journal =
      (groups? text,
        if groups? text = none then journal.push (.refused text)
        else journal) := by
  unfold readGroups
  cases groups? text <;> rfl

/-- A text that spells no rolls is written down, and nothing else is. -/
theorem readRolls_eq (text : String) (journal : Journal) :
    readRolls text journal =
      (rolls? text,
        if rolls? text = none then journal.push (.refused text)
        else journal) := by
  rw [readRolls, readGroups_eq, rolls?]
  simp only [Option.map_eq_none_iff]

end Notation

namespace Request

open Notation

theorem read_fst (limits : Limits) (text : String) (journal : Journal) :
    (read limits text journal).1 =
      match Text.trim Text.isBlank text.toList with
      | [] => .error (.rejected .blank)
      | first :: later =>
          match groups? text with
          | none =>
              .error (.rejected (.unreadable (String.ofList (first :: later))))
          | some groups => checked limits text groups := by
  unfold read
  cases Text.trim Text.isBlank text.toList with
  | nil => rfl
  | cons first later =>
      rw [readGroups_eq]
      cases groups? text <;> rfl

theorem checkedTerms_eq_ok {limit : Option Int} {text : String}
    {groups : List Group} {request : Request}
    (kept : checkedTerms limit text groups = .ok request) :
    request = ofGroups text groups := by
  unfold checkedTerms at kept
  split at kept
  · cases kept
    rfl
  · split at kept
    · cases kept
    · split at kept
      · cases kept
      · cases kept
        rfl

theorem checked_eq_ok {limits : Limits} {text : String} {groups : List Group}
    {request : Request} (kept : checked limits text groups = .ok request) :
    request = ofGroups text groups := by
  unfold checked at kept
  split at kept
  · cases kept
  · exact checkedTerms_eq_ok kept

theorem read_eq_ok {limits : Limits} {text : String} {journal : Journal}
    {request : Request} (accepted : (read limits text journal).1 = .ok request) :
    ∃ groups, groups? text = some groups ∧ request = ofGroups text groups := by
  rw [read_fst] at accepted
  split at accepted
  · cases accepted
  · split at accepted
    · cases accepted
    · exact ⟨_, ‹_›, checked_eq_ok accepted⟩

theorem readWithin_fst (settings : Settings) (text : String)
    (journal : Journal) :
    (readWithin settings text journal).1 =
      match (read settings.limits text journal).1 with
      | .error failure => .error failure
      | .ok request =>
          match exceeded (some settings.maxDice) request.diceCount with
          | some allowed =>
              .error (.rejected (.tooManyDice request.diceCount allowed))
          | none => .ok request := by
  unfold readWithin
  rcases read settings.limits text journal with ⟨_ | request, later⟩
  · rfl
  · dsimp only
    cases exceeded (some settings.maxDice) request.diceCount <;> rfl

/-- The journal has no part in what a text is read to. -/
theorem readWithin_fst_congr (settings : Settings) (text : String)
    (journal other : Journal) :
    (readWithin settings text journal).1 =
      (readWithin settings text other).1 := by
  rw [readWithin_fst, readWithin_fst, read_fst, read_fst]

theorem readWithin_eq_ok {settings : Settings} {text : String}
    {journal : Journal} {request : Request}
    (accepted : (readWithin settings text journal).1 = .ok request) :
    ∃ groups, groups? text = some groups ∧ request = ofGroups text groups := by
  rw [readWithin_fst] at accepted
  split at accepted
  · cases accepted
  · split at accepted
    · cases accepted
    · cases accepted
      exact read_eq_ok ‹_›

/-- What is written down as a text is read: that it spells no rolls, unless it
is blank. -/
def readingEvents (text : String) : List Event :=
  if Text.trim Text.isBlank text.toList ≠ [] ∧ groups? text = none then
    [.refused text]
  else []

theorem readWithin_snd (settings : Settings) (text : String)
    (journal : Journal) :
    (readWithin settings text journal).2.toList =
      journal.toList ++ readingEvents text := by
  have kept : (readWithin settings text journal).2 =
      (read settings.limits text journal).2 := by
    unfold readWithin
    rcases read settings.limits text journal with ⟨_ | request, later⟩
    · rfl
    · dsimp only
      cases exceeded (some settings.maxDice) request.diceCount <;> rfl
  rw [kept, read, readGroups_eq, readingEvents]
  cases Text.trim Text.isBlank text.toList with
  | nil => simp
  | cons first later => cases groups? text <;> simp

end Request

end DiceRoller
