import DiceRoller.Proofs.Cursor.Reads

/-!
# Rules and forms

A rule reads a form if it hits exactly on that form wherever something stands
behind it that may follow the form.  Repetition and mapping keep this relation,
and with it the rules of the notation are taken one by one up to whole sets.
-/

namespace DiceRoller

open Token (Visible)
open Notation

namespace Rule

variable {value other : Type}

/-- A rule that hits exactly on a form where something that may follow it
stands behind it. -/
structure Reads (rule : Rule value) (form : List Token → value → Prop)
    (follows : List Token → Prop) : Prop where
  sound : ∀ {cursor rest : Cursor} {found : value},
    rule.read cursor = some (found, rest) →
      ∃ front, form front found ∧ cursor.tokens = front ++ rest.tokens
  complete : ∀ {cursor : Cursor} {front later : List Token} {found : value},
    form front found → cursor.tokens = front ++ later → follows later →
      ∃ rest, rule.read cursor = some (found, rest) ∧ rest.tokens = later

theorem readSeparated_last {rule : Rule value} {mark : Char}
    {cursor after rest : Cursor} {first : value}
    (read : rule.read cursor = some (first, after))
    (unmarked : after.accept [mark] = (false, rest)) :
    rule.readSeparated mark cursor = some ((first, []), rest) := by
  rw [readSeparated]
  split
  · next missed => simp [read] at missed
  · next found =>
      cases read.symm.trans found
      split
      · next again =>
          cases unmarked.symm.trans again
          rfl
      · next marked => simp [unmarked] at marked

theorem readSeparated_more {rule : Rule value} {mark : Char}
    {cursor after afterMark rest : Cursor} {first second : value}
    {later : List value} (read : rule.read cursor = some (first, after))
    (marked : after.accept [mark] = (true, afterMark))
    (continued : rule.readSeparated mark afterMark =
      some ((second, later), rest)) :
    rule.readSeparated mark cursor = some ((first, second :: later), rest) := by
  rw [readSeparated]
  split
  · next missed => simp [read] at missed
  · next found =>
      cases read.symm.trans found
      split
      · next unmarked => simp [marked] at unmarked
      · next again =>
          cases marked.symm.trans again
          simp [continued]

private theorem readSeparated_sound {rule : Rule value}
    {form : List Token → value → Prop} {follows : List Token → Prop}
    (reads : rule.Reads form follows) {mark : Char} (visible : Visible mark)
    {cursor rest : Cursor} {found : value × List value}
    (result : rule.readSeparated mark cursor = some (found, rest)) :
    ∃ front, SeparatedForm form mark front (found.1 :: found.2) ∧
      cursor.tokens = front ++ rest.tokens := by
  fun_induction readSeparated rule mark cursor generalizing found with
  | case1 => simp at result
  | case2 cursor first afterFirst read last unmarked =>
      cases result
      obtain ⟨front, spelled, shape⟩ := reads.sound read
      refine ⟨front, .single spelled, ?_⟩
      rw [shape, Cursor.accept_kept unmarked]
  | case3 => simp at result
  | case4 cursor first afterFirst read afterMark marked second later last
      continued induction =>
      cases result
      obtain ⟨front, spelled, shape⟩ := reads.sound read
      obtain ⟨others, separated, remaining⟩ := induction continued
      refine ⟨front ++ .mark mark :: others, .more spelled separated, ?_⟩
      rw [shape, Cursor.accept_mark_sound visible marked, remaining]
      simp

private theorem readSeparated_complete {rule : Rule value}
    {form : List Token → value → Prop} {follows : List Token → Prop}
    (reads : rule.Reads form follows) {mark : Char} (visible : Visible mark)
    (goesOn : ∀ later, follows (.mark mark :: later))
    {front : List Token} {spelled : List value}
    (separated : SeparatedForm form mark front spelled)
    {cursor : Cursor} {later : List Token}
    (shape : cursor.tokens = front ++ later) (ended : follows later)
    (stopped : ∀ others, later ≠ .mark mark :: others) :
    ∃ first others rest, spelled = first :: others ∧
      rule.readSeparated mark cursor = some ((first, others), rest) ∧
        rest.tokens = later := by
  induction separated generalizing cursor with
  | @single tokens first formed =>
      obtain ⟨after, read, remaining⟩ := reads.complete formed shape ended
      obtain ⟨rest, unmarked, kept⟩ :=
        Cursor.accept_mark_misses visible (remaining ▸ stopped)
      exact ⟨first, [], rest, rfl, readSeparated_last read unmarked,
        kept.trans remaining⟩
  | @more tokens more first others formed _ induction =>
      rw [List.append_assoc] at shape
      obtain ⟨after, read, remaining⟩ :=
        reads.complete formed shape (goesOn (more ++ later))
      obtain ⟨afterMark, marked, remaining⟩ :=
        Cursor.accept_mark_complete remaining
      obtain ⟨second, third, rest, rfl, continued, ended⟩ :=
        induction remaining
      exact ⟨first, second :: third, rest, rfl,
        readSeparated_more read marked continued, ended⟩

namespace Reads

variable {rule : Rule value} {form : List Token → value → Prop}
  {follows : List Token → Prop}

theorem attempt (reads : rule.Reads form fun _ => True) :
    Cursor.Tries rule.attempt form where
  sound {cursor rest found} result := by
    unfold Rule.attempt at result
    split at result
    · simp at result
    · next read =>
        cases result
        exact reads.sound read
  kept {cursor rest} result := by
    unfold Rule.attempt at result
    split at result
    · cases result
      rfl
    · simp at result
  complete {cursor front later found} spelled shape := by
    obtain ⟨rest, read, remaining⟩ := reads.complete spelled shape trivial
    exact ⟨rest, by simp [Rule.attempt, read], remaining⟩

theorem map (reads : rule.Reads form follows) (function : value → other) :
    (rule.map function).Reads
      (fun tokens image => ∃ found, form tokens found ∧ function found = image)
      follows where
  sound {cursor rest image} result := by
    obtain ⟨⟨found, after⟩, read, equality⟩ := Option.map_eq_some_iff.mp result
    cases equality
    obtain ⟨front, spelled, shape⟩ := reads.sound read
    exact ⟨front, ⟨found, spelled, rfl⟩, shape⟩
  complete {cursor front later image} spelled shape ended := by
    obtain ⟨found, formed, rfl⟩ := spelled
    obtain ⟨rest, read, remaining⟩ := reads.complete formed shape ended
    exact ⟨rest, by simp [Rule.map, read], remaining⟩

theorem congr (reads : rule.Reads form follows)
    {otherForm : List Token → value → Prop}
    (same : ∀ tokens found, form tokens found ↔ otherForm tokens found) :
    rule.Reads otherForm follows where
  sound result := by
    obtain ⟨front, spelled, shape⟩ := reads.sound result
    exact ⟨front, (same _ _).mp spelled, shape⟩
  complete spelled shape ended :=
    reads.complete ((same _ _).mpr spelled) shape ended

/-- A separated rule goes on as long as it meets its mark. -/
theorem separated (reads : rule.Reads form follows) {mark : Char}
    (visible : Visible mark)
    (goesOn : ∀ later, follows (.mark mark :: later)) :
    (rule.separated mark).Reads
      (fun tokens found =>
        SeparatedForm form mark tokens (found.1 :: found.2))
      (fun later => follows later ∧ ∀ others, later ≠ .mark mark :: others)
      where
  sound result := readSeparated_sound reads visible result
  complete {cursor front later found} spelled shape ended := by
    obtain ⟨first, others, rest, equality, read, remaining⟩ :=
      readSeparated_complete reads visible goesOn spelled shape ended.1 ended.2
    cases equality
    exact ⟨rest, read, remaining⟩

end Reads

end Rule

end DiceRoller
