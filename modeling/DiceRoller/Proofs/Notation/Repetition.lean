import DiceRoller.Proofs.Notation.Concatenation

/-!
# Repeated rolls

A number of times in front of a text that spells one roll stands for as many
copies of the text with semicolons between them.  The number has to be
positive and in range, and it is written once at most.
-/

namespace DiceRoller

theorem Token.mem_of_mark_mem_scan {character : Char} {text : List Char}
    (member : .mark character ∈ scan text) : character ∈ text := by
  have among : ∀ digitBefore, .mark character ∈ scanAfter digitBefore text →
      character ∈ text := by
    clear member
    induction text with
    | nil => simp [scanAfter]
    | cons first later induction =>
        intro digitBefore member
        simp only [scanAfter] at member
        grind
  exact among false member

namespace Notation

open Token (scan)

/-- A text behind the number of times its roll is thrown. -/
def timed (times : Nat) (text : String) : String :=
  toString times ++ "x" ++ text

/-- So many copies of a text with semicolons between them. -/
def copies (times : Nat) (text : String) : String :=
  ";".intercalate (List.replicate times text)

/-- The first group of the text has a number of times of its own. -/
def BeginsTimed (text : String) : Prop :=
  ∃ front times later, TimesForm front times ∧
    scan (lowered text) = front ++ later

theorem scan_lowered_timed (times : Nat) (text : String) :
    scan (lowered (timed times text)) =
      .number times :: .mark 'x' :: scan (lowered text) := by
  have visible : Token.Visible 'x' := by decide
  have letter : lowered "x" = ['x'] := by decide
  rw [timed, lowered_append, lowered_append, letter, lowered_toString,
    List.append_assoc, List.singleton_append,
    Token.scan_digits (digits_toDigits times) (Token.apart_cons visible.2),
    decimal_toDigits, Token.scan_mark visible]

/-- What stands behind a number of times is a chain, which has no other one in
front of it. -/
theorem GroupForm.of_times {times : Nat} {tokens front later : List Token}
    {group : Group} (form : GroupForm front group)
    (shape : .number times :: .mark 'x' :: tokens = front ++ later) :
    0 < times ∧ times ≤ Cursor.largest ∧
      ∀ other others, tokens ≠ .number other :: .mark 'x' :: others := by
  cases form with
  | group timesForm positive chain =>
      rcases timesForm.absent_or_form with ⟨rfl, _⟩ | timesForm
      · rcases chain.opening with ⟨rest, rfl⟩ | ⟨count, rest, rfl⟩ <;>
          simp at shape
      · cases timesForm with
        | times digits =>
            cases digits with
            | number able =>
                obtain ⟨same, behind⟩ := List.cons.inj shape
                cases same
                refine ⟨positive, able, ?_⟩
                rintro other others rfl
                have repeated := (List.cons.inj behind).2
                rcases chain.opening with ⟨rest, rfl⟩ | ⟨count, rest, rfl⟩ <;>
                  simp at repeated

/-- A number of times that is out of range or in front of another one makes a
text unreadable. -/
theorem groups?_timed_eq_none {times : Nat} {text : String}
    (refused : times = 0 ∨ Cursor.largest < times ∨ BeginsTimed text) :
    groups? (timed times text) = none := by
  apply Option.eq_none_iff_forall_ne_some.mpr
  intro groups read
  have form := groups?_eq_some_iff_scan.mp read
  rw [scan_lowered_timed] at form
  obtain ⟨front, first, later, formed, shape⟩ := form.exists_front
  obtain ⟨positive, bounded, single⟩ := formed.of_times shape
  rcases refused with zero | large | ⟨other, number, rest, timesForm, again⟩
  · exact absurd zero (Nat.ne_of_gt positive)
  · exact absurd bounded (Nat.not_le.mpr large)
  · cases timesForm with
    | times digits =>
        cases digits with
        | number _ => exact single _ _ again

theorem x_not_mem_lowered {text : String} (small : 'x' ∉ text.toList)
    (capital : 'X' ∉ text.toList) : 'x' ∉ lowered text := by
  have letter : BothCases 'X' 'x' := ⟨by decide, by decide, by decide⟩
  intro member
  obtain ⟨character, among, lower⟩ := List.mem_map.mp member
  rcases (letter.toLower_eq_iff character).mp lower with rfl | rfl
  · exact small among
  · exact capital among

/-- A group of a text without the letter of a number of times has none. -/
theorem GroupForm.chainForm {tokens : List Token} {group : Group}
    (form : GroupForm tokens group) (untimed : .mark 'x' ∉ tokens) :
    group.times = 1 ∧ ChainForm tokens group.roll := by
  cases form with
  | group timesForm positive chain =>
      rcases timesForm.absent_or_form with ⟨rfl, once⟩ | timesForm
      · exact ⟨once, chain⟩
      · cases timesForm with
        | times digits => simp at untimed

theorem groups?_timed {text : String} {roll : Roll}
    (read : groups? text = some [{ times := 1, roll }])
    (small : 'x' ∉ text.toList) (capital : 'X' ∉ text.toList)
    {times : Nat} (positive : 0 < times) (bounded : times ≤ Cursor.largest) :
    groups? (timed times text) = some [{ times, roll }] := by
  have untimed : .mark 'x' ∉ scan (lowered text) := fun member =>
    x_not_mem_lowered small capital (Token.mem_of_mark_mem_scan member)
  have form := groups?_eq_some_iff_scan.mp read
  rw [groups?_eq_some_iff_scan, scan_lowered_timed]
  generalize scan (lowered text) = tokens at form untimed
  cases form with
  | single formed =>
      obtain ⟨_, chain⟩ := formed.chainForm untimed
      exact .single (.group (.present (.times (.number bounded))) positive chain)
  | more _ others => cases others

theorem copies_add_two (count : Nat) (text : String) :
    copies (count + 2) text = text ++ ";" ++ copies (count + 1) text := by
  simp [copies, List.replicate_succ]

theorem groups?_copies {text : String} {groups : List Group}
    (read : groups? text = some groups) {times : Nat} (positive : 0 < times) :
    groups? (copies times text) =
      some (List.replicate times groups).flatten := by
  obtain ⟨count, rfl⟩ := Nat.exists_eq_succ_of_ne_zero (Nat.ne_of_gt positive)
  induction count with
  | zero => simp [copies, read]
  | succ count induction =>
      rw [copies_add_two, groups?_append_semicolon, read,
        induction (Nat.succ_pos count)]
      simp [List.replicate_succ]

theorem rolls?_timed {text : String} {roll : Roll}
    (read : groups? text = some [{ times := 1, roll }])
    (small : 'x' ∉ text.toList) (capital : 'X' ∉ text.toList)
    {times : Nat} (positive : 0 < times) (bounded : times ≤ Cursor.largest) :
    rolls? (timed times text) = some (List.replicate times roll) := by
  rw [rolls?, groups?_timed read small capital positive bounded]
  simp [Group.rolls]

theorem rolls?_copies {text : String} {roll : Roll}
    (read : groups? text = some [{ times := 1, roll }])
    {times : Nat} (positive : 0 < times) :
    rolls? (copies times text) = some (List.replicate times roll) := by
  have once : Group.rolls { times := 1, roll } = [roll] := rfl
  rw [rolls?, groups?_copies read positive]
  simp [List.flatMap_replicate, once]

end Notation

end DiceRoller
