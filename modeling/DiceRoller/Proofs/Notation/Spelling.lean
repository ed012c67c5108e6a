import DiceRoller.Proofs.Notation.Lowered
import Mathlib.Data.List.DropRight
import Mathlib.Data.List.Forall2

/-!
# Spellings of one text

Texts with the same tokens are read alike.  Blanks count only where they part
a run of digits, and then the text is not read at all; zeros in front of a
number and the case of letters do not count.
-/

namespace DiceRoller

open Text (isBlank)

namespace Token

def BeginsWithDigit (text : List Char) : Prop :=
  ∃ digit ∈ text.head?, digit.isDigit = true

def EndsWithDigit (text : List Char) : Prop :=
  ∃ digit ∈ text.getLast?, digit.isDigit = true

instance (text : List Char) : Decidable (BeginsWithDigit text) :=
  decidable_of_iff (text.head?.any Char.isDigit = true) (by
    simp [BeginsWithDigit, Option.any_eq_true])

instance (text : List Char) : Decidable (EndsWithDigit text) :=
  decidable_of_iff (text.getLast?.any Char.isDigit = true) (by
    simp [EndsWithDigit, Option.any_eq_true])

theorem apart_iff {text : List Char} : Apart text ↔ ¬BeginsWithDigit text := by
  simp [Apart, BeginsWithDigit]

theorem exists_digits_append {text : List Char}
    (begins : BeginsWithDigit text) :
    ∃ digits later, text = digits ++ later ∧ Digits digits ∧ Apart later := by
  obtain ⟨digit, first, isDigit⟩ := begins
  refine ⟨text.takeWhile Char.isDigit, text.dropWhile Char.isDigit,
    List.takeWhile_append_dropWhile.symm, ⟨?_, ?_⟩, apart_dropWhile text⟩
  · cases text with
    | nil => cases first
    | cons character later =>
        cases first
        simp [isDigit]
  · exact fun character member =>
      List.all_eq_true.mp List.all_takeWhile character member

theorem exists_append_digits {text : List Char} (ends : EndsWithDigit text) :
    ∃ first digits, text = first ++ digits ∧ ¬EndsWithDigit first ∧
      Digits digits := by
  obtain ⟨digit, last, isDigit⟩ := ends
  refine ⟨text.rdropWhile Char.isDigit, text.rtakeWhile Char.isDigit,
    List.rdropWhile_append_rtakeWhile.symm, ?_, ?_, ?_⟩
  · rintro ⟨other, stopped, otherDigit⟩
    obtain ⟨nonempty, rfl⟩ := List.mem_getLast?_eq_getLast stopped
    exact List.rdropWhile_last_not _ _ nonempty otherDigit
  · obtain ⟨nonempty, rfl⟩ := List.mem_getLast?_eq_getLast last
    exact fun none => List.rtakeWhile_eq_nil_iff.mp none nonempty isDigit
  · exact fun character member => List.mem_rtakeWhile_imp member

/-- Where a text goes on after a character that is no digit, a token begins. -/
theorem scan_append_of_not_endsWithDigit {first : List Char}
    (ended : ¬EndsWithDigit first) (later : List Char) :
    scan (first ++ later) = scan first ++ scan later := by
  rcases List.eq_nil_or_concat first with rfl | ⟨front, last, rfl⟩
  · rfl
  · have other : last.isDigit = false := by simpa [EndsWithDigit] using ended
    have single : scan (last :: later) = scan [last] ++ scan later := by
      by_cases blank : isBlank last = true
      · rw [scan_blank blank, scan_blank blank]
        rfl
      · have visible : Visible last := ⟨by simpa using blank, other⟩
        rw [scan_mark visible, scan_mark visible]
        rfl
    rw [List.concat_eq_append, List.append_assoc, List.singleton_append,
      scan_append front (apart_cons other), scan_append front (apart_cons other),
      single, List.append_assoc]

theorem scan_of_beginsWithDigit {text : List Char}
    (begins : BeginsWithDigit text) :
    ∃ value later, scan text = .number value :: later ∧
      scan ('0' :: text) = .number value :: later := by
  obtain ⟨digits, later, rfl, run, apart⟩ := exists_digits_append begins
  have padded : Digits ('0' :: digits) := by
    constructor
    · simp
    · intro character member
      rcases List.mem_cons.mp member with rfl | among
      · rfl
      · exact run.digit character among
  refine ⟨decimal digits, scan later, scan_digits run apart, ?_⟩
  rw [← List.cons_append, scan_digits padded apart, decimal_cons_zero]

theorem scan_of_endsWithDigit {text : List Char} (ends : EndsWithDigit text) :
    ∃ before value, scan text = before ++ [.number value] := by
  obtain ⟨first, digits, rfl, ended, run⟩ := exists_append_digits ends
  have nothing : Apart [] := by simp [Apart]
  have alone := scan_digits run nothing
  rw [List.append_nil, scan_nil] at alone
  refine ⟨scan first, decimal digits, ?_⟩
  rw [scan_append_of_not_endsWithDigit ended, alone]

/-- Blanks part the tokens in front of them from those behind them. -/
theorem scan_append_blanks {blanks : List Char} (blank : Blanks blanks)
    (nonempty : blanks ≠ []) (first later : List Char) :
    scan (first ++ (blanks ++ later)) = scan first ++ scan later := by
  have apart : Apart (blanks ++ later) := by
    obtain ⟨character, others, rfl⟩ := List.exists_cons_of_ne_nil nonempty
    exact apart_cons (isDigit_of_isBlank (blank character List.mem_cons_self))
  rw [scan_append first apart, scan_blanks blank]

end Token

/-- The characters are the same or the two cases of one letter. -/
def SameButCase (first second : Char) : Prop :=
  first = second ∨ BothCases first second ∨ BothCases second first

theorem SameButCase.toLower_eq {first second : Char}
    (same : SameButCase first second) : first.toLower = second.toLower := by
  rcases same with rfl | letter | letter
  · rfl
  · rw [(letter.toLower_eq_iff first).mpr (.inr rfl),
      (letter.toLower_eq_iff second).mpr (.inl rfl)]
  · rw [(letter.toLower_eq_iff first).mpr (.inl rfl),
      (letter.toLower_eq_iff second).mpr (.inr rfl)]

namespace Notation

open Token

/-- No text of the notation has two numbers one after the other. -/
theorem Legible.not_adjacent {allowed : Nat → Prop} {before later : List Token}
    {first second : Nat} :
    ¬Legible allowed (before ++ .number first :: .number second :: later) := by
  intro legible
  generalize shape :
    before ++ .number first :: .number second :: later = tokens at legible
  induction legible generalizing before with
  | nil => simp at shape
  | number able => cases before <;> simp at shape
  | mark visible _ induction =>
      cases before with
      | nil => simp at shape
      | cons token before => exact induction (List.cons.inj shape).2
  | numberMark able _ induction =>
      cases before with
      | nil => simp at shape
      | cons token before => exact induction (List.cons.inj shape).2

theorem groups?_congr {first second : String}
    (same : scan (lowered first) = scan (lowered second)) :
    groups? first = groups? second := by
  apply Option.ext
  intro groups
  rw [groups?_eq_some_iff_scan, groups?_eq_some_iff_scan, same]

theorem beginsWithDigit_lowered {text : String} :
    BeginsWithDigit (lowered text) ↔ BeginsWithDigit text.toList := by
  simp [BeginsWithDigit, lowered]

theorem endsWithDigit_lowered {text : String} :
    EndsWithDigit (lowered text) ↔ EndsWithDigit text.toList := by
  simp [EndsWithDigit, lowered]

/-- Two texts of which one ends and the other begins with a digit make no text
of the notation unless the digits run together. -/
theorem groups?_eq_none_of_adjacent {first later text : String}
    (ends : EndsWithDigit first.toList) (begins : BeginsWithDigit later.toList)
    (scanned : scan (lowered text) =
      scan (lowered first) ++ scan (lowered later)) :
    groups? text = none := by
  obtain ⟨before, value, firstTokens⟩ :=
    scan_of_endsWithDigit (endsWithDigit_lowered.mpr ends)
  obtain ⟨other, behind, laterTokens, _⟩ :=
    scan_of_beginsWithDigit (beginsWithDigit_lowered.mpr begins)
  rw [firstTokens, laterTokens, List.append_assoc,
    List.singleton_append] at scanned
  apply Option.eq_none_iff_forall_ne_some.mpr
  intro groups read
  have form := groups?_eq_some_iff_scan.mp read
  rw [scanned] at form
  exact Legible.not_adjacent form.readable

theorem scan_lowered_blanks {blanks : String} (nonempty : blanks ≠ "")
    (blank : ∀ character ∈ blanks.toList, isBlank character = true)
    (before after : String) :
    scan (lowered (before ++ blanks ++ after)) =
      scan (lowered before) ++ scan (lowered after) := by
  have shown : lowered blanks ≠ [] := by simpa [lowered] using nonempty
  rw [lowered_append, lowered_append, List.append_assoc,
    scan_append_blanks (blanks_lowered.mpr blank) shown]

/-- A text divided between two digits is divided inside a token, and only
there. -/
theorem scan_lowered_append {before after : String}
    (whole : ¬(EndsWithDigit before.toList ∧ BeginsWithDigit after.toList)) :
    scan (lowered (before ++ after)) =
      scan (lowered before) ++ scan (lowered after) := by
  rw [lowered_append]
  by_cases begins : BeginsWithDigit (lowered after)
  · apply scan_append_of_not_endsWithDigit
    intro ends
    exact whole ⟨endsWithDigit_lowered.mp ends,
      beginsWithDigit_lowered.mp begins⟩
  · exact scan_append _ (apart_iff.mpr begins)

theorem scan_lowered_zero {before after : String}
    (ended : ¬EndsWithDigit before.toList)
    (begins : BeginsWithDigit after.toList) :
    scan (lowered (before ++ "0" ++ after)) =
      scan (lowered (before ++ after)) := by
  obtain ⟨value, later, plain, padded⟩ :=
    scan_of_beginsWithDigit (beginsWithDigit_lowered.mpr begins)
  have closed : ¬EndsWithDigit (lowered before) :=
    fun ends => ended (endsWithDigit_lowered.mp ends)
  have zero : lowered "0" = ['0'] := by decide
  rw [lowered_append, lowered_append, lowered_append, zero, List.append_assoc,
    List.singleton_append, scan_append_of_not_endsWithDigit closed,
    scan_append_of_not_endsWithDigit closed, plain, padded]

theorem lowered_eq_of_sameButCase {text other : String}
    (same : List.Forall₂ SameButCase text.toList other.toList) :
    lowered other = lowered text := by
  unfold lowered
  generalize text.toList = before at same
  generalize other.toList = after at same
  induction same with
  | nil => rfl
  | cons first _ induction =>
      rw [List.map_cons, List.map_cons, first.toLower_eq, induction]

/-- Wherever a text is divided: blanks put in there make it unreadable if they
part two digits and change nothing otherwise, and a zero put in front of a
number changes nothing.  Nor do letters that are changed to their other case. -/
theorem groups?_respelled (before after : String) :
    (∀ blanks : String, blanks ≠ "" →
      (∀ character ∈ blanks.toList, isBlank character = true) →
      (EndsWithDigit before.toList ∧ BeginsWithDigit after.toList →
        groups? (before ++ blanks ++ after) = none) ∧
      (¬(EndsWithDigit before.toList ∧ BeginsWithDigit after.toList) →
        groups? (before ++ blanks ++ after) = groups? (before ++ after))) ∧
    (¬EndsWithDigit before.toList → BeginsWithDigit after.toList →
      groups? (before ++ "0" ++ after) = groups? (before ++ after)) ∧
    (∀ text other : String,
      List.Forall₂ SameButCase text.toList other.toList →
      groups? other = groups? text) := by
  refine ⟨?_, ?_, ?_⟩
  · intro blanks nonempty blank
    have parted := scan_lowered_blanks nonempty blank before after
    constructor
    · rintro ⟨ends, begins⟩
      exact groups?_eq_none_of_adjacent ends begins parted
    · intro whole
      exact groups?_congr (parted.trans (scan_lowered_append whole).symm)
  · intro ended begins
    exact groups?_congr (scan_lowered_zero ended begins)
  · intro text other same
    apply groups?_congr
    rw [lowered_eq_of_sameButCase same]

theorem groups?_respelled_repeated :
    groups? ("2x 1" ++ "\t\u2003" ++ "2d6+1") = none ∧
      groups? ("2x 12" ++ "\t\u2003" ++ "d6+1") =
        groups? ("2x 12" ++ "d6+1") ∧
      groups? ("2x " ++ "0" ++ "12d6+1") = groups? ("2x " ++ "12d6+1") ∧
      groups? "2X 12D6+1" = groups? "2x 12d6+1" := by
  have blank : ∀ character ∈ "\t\u2003".toList, isBlank character = true :=
    List.all_eq_true.mp (by decide)
  have nonempty : "\t\u2003" ≠ "" := by decide
  have cases : List.Forall₂ SameButCase "2x 12d6+1".toList
      "2X 12D6+1".toList := by
    have x : BothCases 'X' 'x' := ⟨by decide, by decide, by decide⟩
    have d : BothCases 'D' 'd' := ⟨by decide, by decide, by decide⟩
    simp [SameButCase, x, d]
  refine ⟨?_, ?_, ?_, ?_⟩
  · exact ((groups?_respelled "2x 1" "2d6+1").1 _ nonempty blank).1 (by decide)
  · exact ((groups?_respelled "2x 12" "d6+1").1 _ nonempty blank).2 (by decide)
  · exact (groups?_respelled "2x " "12d6+1").2.1 (by decide) (by decide)
  · exact (groups?_respelled "" "").2.2 _ _ cases

end Notation

end DiceRoller
