import DiceRoller.Proofs.Notation.RoundTrip

/-!
# What texts spell

The groups that a text spells have numbers in range, are thrown once or more
and join their terms from the right.  All such groups are spelled by a text,
that of their numbers of times and their descriptions.
-/

namespace DiceRoller

open Token (Written)

/-- Numbers and nesting of a group are those that a text can spell. -/
structure Group.Spelled (group : Group) : Prop where
  times_pos : 0 < group.times
  times_le : group.times ≤ Cursor.largest
  rightNested : group.roll.RightNested
  inRange : group.roll.InRange

namespace Group

/-- The description of the roll behind its number of times. -/
def spelling (group : Group) : String :=
  toString group.times ++ "x " ++ group.roll.describe

def tokens (group : Group) : List Token :=
  .number group.times :: .mark 'x' :: group.roll.tokens

end Group

namespace Notation

theorem SeparatedForm.forall_mem {value : Type}
    {form : List Token → value → Prop} {mark : Char} {tokens : List Token}
    {values : List value} (separated : SeparatedForm form mark tokens values)
    {holds : value → Prop}
    (each : ∀ {tokens value}, form tokens value → holds value) :
    ∀ value ∈ values, holds value := by
  induction separated with
  | single first => simpa using each first
  | more first _ induction => simpa using ⟨each first, induction⟩

theorem IntegerForm.le {tokens : List Token} {value : Nat}
    (integer : IntegerForm tokens value) : value ≤ Cursor.largest := by
  cases integer with
  | number able => exact able

theorem SignedForm.natAbs_le {tokens : List Token} {value : Int}
    (signed : SignedForm tokens value) : value.natAbs ≤ Cursor.largest := by
  cases signed with
  | plus digits => simpa using digits.le
  | minus digits => simpa using digits.le

theorem TermForm.inRange {tokens : List Token} {term : Term}
    (form : TermForm tokens term) : term.InRange := by
  cases form with
  | dice count sides bonus =>
      refine ⟨?_, sides.le, ?_⟩
      · rcases count.absent_or_form with ⟨_, once⟩ | digits
        · rw [once]
          decide
        · exact digits.le
      · rcases bonus.absent_or_form with ⟨_, none⟩ | signed
        · rw [none]
          decide
        · exact signed.natAbs_le

theorem ChainForm.rightNested {tokens : List Token} {roll : Roll}
    (chain : ChainForm tokens roll) : roll.RightNested := by
  induction chain with
  | single _ => exact .single _
  | joined _ _ induction => exact .joined _ induction

theorem ChainForm.inRange {tokens : List Token} {roll : Roll}
    (chain : ChainForm tokens roll) : roll.InRange := by
  induction chain with
  | single term => simpa [Roll.InRange] using term.inRange
  | joined term _ induction =>
      simpa [Roll.InRange] using ⟨term.inRange, induction⟩

theorem GroupForm.spelled {tokens : List Token} {group : Group}
    (form : GroupForm tokens group) : group.Spelled := by
  cases form with
  | group times positive chain =>
      refine ⟨positive, ?_, chain.rightNested, chain.inRange⟩
      rcases times.absent_or_form with ⟨_, once⟩ | prefixed
      · subst once
        exact Nat.le_of_ble_eq_true rfl
      · cases prefixed with
        | times digits => exact digits.le

theorem groups?_spelled {text : String} {groups : List Group}
    (read : groups? text = some groups) :
    groups ≠ [] ∧ ∀ group ∈ groups, group.Spelled := by
  have form := groups?_eq_some_iff_scan.mp read
  exact ⟨form.ne_nil, form.forall_mem GroupForm.spelled⟩

theorem rolls_ne_nil {text : String} {groups : List Group}
    (read : groups? text = some groups) : groups.flatMap Group.rolls ≠ [] := by
  obtain ⟨nonempty, spelled⟩ := groups?_spelled read
  obtain ⟨first, later, rfl⟩ := List.exists_cons_of_ne_nil nonempty
  have thrown := (spelled first List.mem_cons_self).times_pos
  simp [Group.rolls, Nat.ne_of_gt thrown]

theorem spelled_of_mem_rolls {text : String} {groups : List Group}
    (read : groups? text = some groups) {roll : Roll}
    (member : roll ∈ groups.flatMap Group.rolls) :
    roll.RightNested ∧ roll.InRange := by
  obtain ⟨group, among, thrown⟩ := List.mem_flatMap.mp member
  have spelled := (groups?_spelled read).2 group among
  rw [List.eq_of_mem_replicate thrown]
  exact ⟨spelled.rightNested, spelled.inRange⟩

theorem written_spelling (group : Group) {later : List Char}
    {tokens : List Token} (written : Written later tokens) :
    Written (lowered group.spelling ++ later) (group.tokens ++ tokens) := by
  have roll := (written_describe group.roll written).blanks blanks_space
  have letter := Written.mark 'x' Token.blanks_nil roll
  have times := written_number group.times letter
  simpa [Group.spelling, Group.tokens, lowered_append, lowered] using times

theorem groupForm_tokens_of_spelled {group : Group} (spelled : group.Spelled) :
    GroupForm group.tokens group := by
  have times := TimesForm.times (IntegerForm.number spelled.times_le)
  have chain := chainForm_tokens spelled.inRange
  rw [spelled.rightNested.renested_eq] at chain
  exact .group (.present times) spelled.times_pos chain

theorem groups?_spelling {groups : List Group} (nonempty : groups ≠ [])
    (spelled : ∀ group ∈ groups, group.Spelled) :
    groups? (" ; ".intercalate (groups.map Group.spelling)) = some groups := by
  have separated : lowered " ; " = [' ', ';', ' '] := by decide
  have written := written_intercalate written_spelling separated nonempty
    (.done Token.blanks_nil)
  simp only [List.append_nil] at written
  have form : SetForm (Token.joined ';' (groups.map Group.tokens))
      (groups.map id) :=
    separatedForm_joined
      (fun group member => groupForm_tokens_of_spelled (spelled group member))
      nonempty
  rw [List.map_id] at form
  exact groups?_eq_some_iff_spells.mpr ⟨_, written, form⟩

/-- The groups that a text spells are one or more, in range and nested to the
right, and all groups that are so are what their spellings spell together. -/
theorem groups?_image (groups : List Group) :
    (∀ text, groups? text = some groups →
      groups ≠ [] ∧ ∀ group ∈ groups, group.Spelled) ∧
    (groups ≠ [] → (∀ group ∈ groups, group.Spelled) →
      groups? (" ; ".intercalate (groups.map Group.spelling)) =
        some groups) :=
  ⟨fun _ => groups?_spelled, groups?_spelling⟩

theorem largest_pos : 0 < Cursor.largest := by
  decide

/-- The largest numbers that can be read, with bonuses of either sign. -/
def largestGroup : Group :=
  let plus : Term :=
    { count := Cursor.largest, sides := Cursor.largest, bonus := 2147483647
      count_pos := largest_pos, sides_pos := largest_pos }
  let minus : Term :=
    { count := 1, sides := 1, bonus := -2147483647
      count_pos := Nat.one_pos, sides_pos := Nat.one_pos }
  { times := Cursor.largest, roll := .joined (.single minus) (.single plus) }

theorem groups?_image_largest :
    [largestGroup] ≠ [] ∧ (∀ group ∈ [largestGroup], group.Spelled) ∧
      groups? (" ; ".intercalate ([largestGroup].map Group.spelling)) =
        some [largestGroup] := by
  have spelled : ∀ group ∈ [largestGroup], group.Spelled := by
    intro group member
    cases List.mem_singleton.mp member
    refine ⟨by decide, by decide, .joined _ (.single _), ?_⟩
    intro term termMember
    simp only [largestGroup, Roll.terms_joined, Roll.terms_single,
      List.cons_append, List.nil_append, List.mem_cons, List.not_mem_nil,
      or_false] at termMember
    rcases termMember with rfl | rfl <;>
      exact ⟨by decide, by decide, by decide⟩
  exact ⟨by simp, spelled, (groups?_image [largestGroup]).2 (by simp) spelled⟩

end Notation

end DiceRoller
