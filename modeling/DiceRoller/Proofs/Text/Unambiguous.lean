import DiceRoller.Proofs.Cursor.Extent
import DiceRoller.Proofs.Notation.Lowered
import DiceRoller.Text.Listing

/-!
# Unambiguous texts

Items are written unambiguously if their texts tell them apart, and tell where
they end, whatever may follow behind them.  Texts that are put together from
unambiguous ones can then be taken apart again from the front.
-/

namespace DiceRoller.Text

open Token (Apart SignFree)
open Notation (decimal_toDigits digits_toDigits toString_of_neg
  toString_of_nonneg)

section Unambiguous

variable {item : Type}

/-- Two of the items that are written alike, with something behind either that
may follow there, are the same and have the same behind them. -/
def Unambiguous (among : item → Prop) (write : item → String)
    (follows : String → Prop) : Prop :=
  ∀ ⦃first second : item⦄ ⦃rest other : String⦄,
    among first → among second → follows rest → follows other →
      write first ++ rest = write second ++ other →
        first = second ∧ rest = other

variable {among : item → Prop} {write : item → String}
  {follows : String → Prop}

theorem Unambiguous.eq_of_eq (clear : Unambiguous among write follows)
    (ends : follows "") {first second : item} (firstAmong : among first)
    (secondAmong : among second) (same : write first = write second) :
    first = second :=
  (clear firstAmong secondAmong ends ends (congrArg (· ++ "") same)).1

/-- The texts of the items with the separator in front of each of them. -/
def eachBehind (separator : String) (write : item → String) :
    List item → String
  | [] => ""
  | first :: later =>
      separator ++ (write first ++ eachBehind separator write later)

theorem intercalate_map_cons (separator : String) (write : item → String)
    (first : item) (later : List item) :
    separator.intercalate ((first :: later).map write) =
      write first ++ eachBehind separator write later := by
  induction later generalizing first with
  | nil => simp [eachBehind]
  | cons second later induction =>
      rw [List.map_cons, List.map_cons, String.intercalate_cons_cons,
        ← List.map_cons, induction, eachBehind, String.append_assoc]

section Separated

variable {separator : String}

theorem follows_eachBehind (goesOn : ∀ later, follows (separator ++ later))
    (items : List item) {rest : String} (ends : follows rest) :
    follows (eachBehind separator write items ++ rest) := by
  cases items with
  | nil => simpa [eachBehind] using ends
  | cons first later =>
      rw [eachBehind, String.append_assoc]
      exact goesOn _

theorem Unambiguous.eachBehind (clear : Unambiguous among write follows)
    (goesOn : ∀ later, follows (separator ++ later)) :
    Unambiguous (fun items => ∀ item ∈ items, among item)
      (eachBehind separator write)
      (fun rest => follows rest ∧ ∀ later, rest ≠ separator ++ later) := by
  intro items others rest other each otherEach ends otherEnds same
  induction items generalizing others with
  | nil =>
      cases others with
      | nil => simpa [Text.eachBehind] using same
      | cons second others =>
          simp only [Text.eachBehind, String.empty_append,
            String.append_assoc] at same
          exact absurd same (ends.2 _)
  | cons first items induction =>
      cases others with
      | nil =>
          simp only [Text.eachBehind, String.empty_append,
            String.append_assoc] at same
          exact absurd same.symm (otherEnds.2 _)
      | cons second others =>
          obtain ⟨firstAmong, later⟩ := List.forall_mem_cons.mp each
          obtain ⟨secondAmong, otherLater⟩ := List.forall_mem_cons.mp otherEach
          simp only [Text.eachBehind, String.append_assoc,
            String.append_right_inj] at same
          obtain ⟨rfl, remaining⟩ := clear firstAmong secondAmong
            (follows_eachBehind goesOn items ends.1)
            (follows_eachBehind goesOn others otherEnds.1) same
          obtain ⟨rfl, rfl⟩ := induction later otherLater remaining
          exact ⟨rfl, rfl⟩

/-- Items with a separator between each two of them are unambiguous where no
separator follows, since each item ends in front of a separator. -/
theorem Unambiguous.separated (clear : Unambiguous among write follows)
    (goesOn : ∀ later, follows (separator ++ later)) :
    Unambiguous (fun items => items ≠ [] ∧ ∀ item ∈ items, among item)
      (fun items => separator.intercalate (items.map write))
      (fun rest => follows rest ∧ ∀ later, rest ≠ separator ++ later) := by
  intro items others rest other ⟨nonempty, each⟩ ⟨otherNonempty, otherEach⟩
    ends otherEnds same
  obtain ⟨first, items, rfl⟩ := List.exists_cons_of_ne_nil nonempty
  obtain ⟨second, others, rfl⟩ := List.exists_cons_of_ne_nil otherNonempty
  obtain ⟨firstAmong, later⟩ := List.forall_mem_cons.mp each
  obtain ⟨secondAmong, otherLater⟩ := List.forall_mem_cons.mp otherEach
  simp only [intercalate_map_cons, String.append_assoc] at same
  obtain ⟨rfl, remaining⟩ := clear firstAmong secondAmong
    (follows_eachBehind goesOn items ends.1)
    (follows_eachBehind goesOn others otherEnds.1) same
  obtain ⟨rfl, rfl⟩ :=
    clear.eachBehind goesOn later otherLater ends otherEnds remaining
  exact ⟨rfl, rfl⟩

/-- At the end of a text there is no separator. -/
theorem Unambiguous.eq_of_intercalate_eq
    (clear : Unambiguous among write follows)
    (goesOn : ∀ later, follows (separator ++ later)) (ends : follows "")
    (marked : separator ≠ "") {items others : List item}
    (nonempty : items ≠ []) (otherNonempty : others ≠ [])
    (each : ∀ item ∈ items, among item)
    (otherEach : ∀ item ∈ others, among item)
    (same : separator.intercalate (items.map write) =
      separator.intercalate (others.map write)) : items = others := by
  have unmarked (later : String) : "" ≠ separator ++ later := by
    intro equal
    exact marked (String.append_eq_empty_iff.mp equal.symm).1
  exact (clear.separated goesOn).eq_of_eq ⟨ends, unmarked⟩ ⟨nonempty, each⟩
    ⟨otherNonempty, otherEach⟩ same

end Separated

/-- A bracket that no item begins with tells an empty listing from all others
and ends every listing. -/
theorem Unambiguous.bracketed (clear : Unambiguous among write follows)
    (goesOn : ∀ later, follows (", " ++ later))
    (closes : ∀ later, follows ("]" ++ later))
    (opens : ∀ item later other, write item ++ later ≠ "]" ++ other) :
    Unambiguous (fun items : List item => ∀ item ∈ items, among item)
      (fun items => Text.bracketed (items.map write)) (fun _ => True) := by
  intro items others rest other each otherEach _ _ same
  simp only [Text.bracketed, String.append_assoc,
    String.append_right_inj] at same
  cases items with
  | nil =>
      cases others with
      | nil => simpa using same
      | cons second others =>
          rw [intercalate_map_cons, String.append_assoc] at same
          exact absurd same.symm (opens _ _ _)
  | cons first items =>
      cases others with
      | nil =>
          rw [intercalate_map_cons, String.append_assoc] at same
          exact absurd same (opens _ _ _)
      | cons second others =>
          have closed (later more : String) : "]" ++ later ≠ ", " ++ more := by
            intro equal
            have marks := congrArg String.toList equal
            simp at marks
          obtain ⟨sameItems, remaining⟩ := clear.separated goesOn
            ⟨List.cons_ne_nil _ _, each⟩ ⟨List.cons_ne_nil _ _, otherEach⟩
            ⟨closes rest, closed rest⟩ ⟨closes other, closed other⟩ same
          exact ⟨sameItems, (String.append_right_inj "]").mp remaining⟩

/-- What stands behind the first item of a tuple. -/
def tupleEnd (write : item → String) : List item → String
  | [] => ",)"
  | second :: later => eachBehind ", " write (second :: later) ++ ")"

theorem tupled_nil (write : item → String) :
    Text.tupled (([] : List item).map write) = "(" ++ ")" := by
  simp [Text.tupled]

theorem tupled_cons (write : item → String) (first : item)
    (later : List item) :
    Text.tupled ((first :: later).map write) =
      "(" ++ (write first ++ tupleEnd write later) := by
  cases later with
  | nil => simp [Text.tupled, tupleEnd, String.append_assoc]
  | cons second later =>
      have separated := intercalate_map_cons ", " write first (second :: later)
      simp only [List.map_cons] at separated
      simp only [List.map_cons, Text.tupled, separated, tupleEnd,
        String.append_assoc]

theorem tupleEnd_begins (write : item → String) (items : List item)
    (rest : String) : ∃ later, tupleEnd write items ++ rest = "," ++ later := by
  have comma : ", " = "," ++ " " := rfl
  have closed : ",)" = "," ++ ")" := rfl
  cases items with
  | nil => exact ⟨_, by rw [tupleEnd, closed, String.append_assoc]⟩
  | cons second later =>
      exact ⟨_, by
        rw [tupleEnd, eachBehind, comma, String.append_assoc,
          String.append_assoc, String.append_assoc]⟩

theorem Unambiguous.tupleEnd (clear : Unambiguous among write follows)
    (goesOn : ∀ later, follows (", " ++ later))
    (closes : ∀ later, follows (")" ++ later)) :
    Unambiguous (fun items => ∀ item ∈ items, among item) (tupleEnd write)
      (fun _ => True) := by
  have single (rest later : String) : ",)" ++ rest ≠ ", " ++ later := by
    intro equal
    have marks := congrArg String.toList equal
    simp at marks
  have closed (later more : String) : ")" ++ later ≠ ", " ++ more := by
    intro equal
    have marks := congrArg String.toList equal
    simp at marks
  intro items others rest other each otherEach _ _ same
  cases items with
  | nil =>
      cases others with
      | nil => simpa [Text.tupleEnd] using same
      | cons second others =>
          simp only [Text.tupleEnd, Text.eachBehind, String.append_assoc] at same
          exact absurd same (single _ _)
  | cons first items =>
      cases others with
      | nil =>
          simp only [Text.tupleEnd, Text.eachBehind, String.append_assoc] at same
          exact absurd same.symm (single _ _)
      | cons second others =>
          simp only [Text.tupleEnd, String.append_assoc] at same
          obtain ⟨sameItems, remaining⟩ := clear.eachBehind goesOn each otherEach
            ⟨closes rest, closed rest⟩ ⟨closes other, closed other⟩ same
          exact ⟨sameItems, (String.append_right_inj ")").mp remaining⟩

/-- The comma behind a single item tells it from the first of several, and a
bracket ends every tuple. -/
theorem Unambiguous.tupled (clear : Unambiguous among write follows)
    (goesOn : ∀ later, follows ("," ++ later))
    (closes : ∀ later, follows (")" ++ later))
    (opens : ∀ item later other, write item ++ later ≠ ")" ++ other) :
    Unambiguous (fun items : List item => ∀ item ∈ items, among item)
      (fun items => Text.tupled (items.map write)) (fun _ => True) := by
  have behind (items : List item) (rest : String) :
      follows (Text.tupleEnd write items ++ rest) := by
    obtain ⟨later, begins⟩ := tupleEnd_begins write items rest
    rw [begins]
    exact goesOn later
  have separates (later : String) : follows (", " ++ later) := by
    have further := goesOn (" " ++ later)
    rwa [← String.append_assoc] at further
  intro items others rest other each otherEach _ _ same
  cases items with
  | nil =>
      cases others with
      | nil => simpa using same
      | cons second others =>
          simp only [tupled_nil, tupled_cons, String.append_assoc,
            String.append_right_inj] at same
          exact absurd same.symm (opens _ _ _)
  | cons first items =>
      cases others with
      | nil =>
          simp only [tupled_nil, tupled_cons, String.append_assoc,
            String.append_right_inj] at same
          exact absurd same (opens _ _ _)
      | cons second others =>
          obtain ⟨firstAmong, later⟩ := List.forall_mem_cons.mp each
          obtain ⟨secondAmong, otherLater⟩ := List.forall_mem_cons.mp otherEach
          simp only [tupled_cons, String.append_assoc,
            String.append_right_inj] at same
          obtain ⟨rfl, remaining⟩ := clear firstAmong secondAmong
            (behind items rest) (behind others other) same
          obtain ⟨rfl, rfl⟩ := clear.tupleEnd separates closes later otherLater
            trivial trivial remaining
          exact ⟨rfl, rfl⟩

end Unambiguous

section Numbers

/-- A number begins with a digit. -/
theorem not_apart_natural (number : Nat) (later : String) :
    ¬Apart (toString number ++ later).toList := by
  have run := digits_toDigits number
  obtain ⟨first, digits, shape⟩ := List.exists_cons_of_ne_nil run.nonempty
  have digit : first.isDigit = true := run.digit first (by simp [shape])
  simp [Apart, Nat.toString_eq_repr, Nat.toList_repr, shape, digit]

/-- All digits belong to a number, so that no digit may follow it. -/
theorem unambiguous_natural :
    Unambiguous (fun _ => True) (fun number : Nat => toString number)
      (fun rest => Apart rest.toList) := by
  intro first second rest other _ _ apart otherApart same
  have shape : Nat.toDigits 10 first ++ rest.toList =
      Nat.toDigits 10 second ++ other.toList := by
    simpa [Nat.toString_eq_repr, Nat.toList_repr]
      using congrArg String.toList same
  obtain ⟨taken, left⟩ :=
    Token.takeWhile_digits (digits_toDigits first) apart
  obtain ⟨otherTaken, otherLeft⟩ :=
    Token.takeWhile_digits (digits_toDigits second) otherApart
  have digits : Nat.toDigits 10 first = Nat.toDigits 10 second := by
    rw [← taken, shape, otherTaken]
  have remaining : rest.toList = other.toList := by
    rw [← left, shape, otherLeft]
  refine ⟨?_, String.toList_inj.mp remaining⟩
  rw [← decimal_toDigits first, digits, decimal_toDigits]

theorem natural_ne_minus (number : Nat) (later other : String) :
    toString number ++ later ≠ "-" ++ other := by
  intro same
  have minus : Apart ("-" ++ other).toList := by simp [Apart]
  rw [← same] at minus
  exact not_apart_natural number later minus

/-- A number begins with a digit or with its sign. -/
theorem integer_ne_mark {mark : String}
    (apart : ∀ later, Apart (mark ++ later).toList)
    (unsigned : ∀ later other, "-" ++ later ≠ mark ++ other) (number : Int)
    (later other : String) : toString number ++ later ≠ mark ++ other := by
  intro same
  rcases Int.lt_or_le number 0 with negative | nonneg
  · rw [toString_of_neg negative, String.append_assoc] at same
    exact unsigned _ _ same
  · rw [toString_of_nonneg nonneg] at same
    have begins := apart other
    rw [← same] at begins
    exact not_apart_natural _ later begins

theorem unambiguous_integer :
    Unambiguous (fun _ => True) (fun number : Int => toString number)
      (fun rest => Apart rest.toList) := by
  intro first second rest other _ _ apart otherApart same
  rcases Int.lt_or_le first 0 with negative | nonneg
  · rcases Int.lt_or_le second 0 with otherNegative | otherNonneg
    · simp only [toString_of_neg negative, toString_of_neg otherNegative,
        String.append_assoc, String.append_right_inj] at same
      obtain ⟨size, remaining⟩ :=
        unambiguous_natural trivial trivial apart otherApart same
      exact ⟨by omega, remaining⟩
    · simp only [toString_of_neg negative, toString_of_nonneg otherNonneg,
        String.append_assoc] at same
      exact absurd same.symm (natural_ne_minus _ _ _)
  · rcases Int.lt_or_le second 0 with otherNegative | otherNonneg
    · simp only [toString_of_nonneg nonneg, toString_of_neg otherNegative,
        String.append_assoc] at same
      exact absurd same (natural_ne_minus _ _ _)
    · simp only [toString_of_nonneg nonneg,
        toString_of_nonneg otherNonneg] at same
      obtain ⟨size, remaining⟩ :=
        unambiguous_natural trivial trivial apart otherApart same
      exact ⟨by omega, remaining⟩

end Numbers

end DiceRoller.Text
