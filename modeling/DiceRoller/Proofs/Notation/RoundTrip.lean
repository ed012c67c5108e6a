import DiceRoller.Proofs.Notation.Lowered
import DiceRoller.Proofs.Roll.Nesting

/-!
# Descriptions are read back

The description of rolls is written with a fixed sequence of tokens, which
spells the rolls nested to the right if every number in it can be read.  A
description with a larger number is no text of the notation.
-/

namespace DiceRoller

open Token (Blanks Visible Written)
open Notation

/-- The numbers of the term are among those that can be read. -/
structure Term.InRange (term : Term) : Prop where
  count_le : term.count ≤ Cursor.largest
  sides_le : term.sides ≤ Cursor.largest
  bonus_le : term.bonus.natAbs ≤ Cursor.largest

def Roll.InRange (roll : Roll) : Prop :=
  ∀ term ∈ roll.terms, term.InRange

namespace Term

def bonusTokens (bonus : Int) : List Token :=
  if 0 < bonus then [.mark '+', .number bonus.natAbs]
  else if bonus < 0 then [.mark '-', .number bonus.natAbs]
  else []

def tokens (term : Term) : List Token :=
  .number term.count :: .mark 'd' :: .number term.sides ::
    bonusTokens term.bonus

end Term

/-- The tokens of several items with a mark between each two of them. -/
def Token.joined (mark : Char) (items : List (List Token)) : List Token :=
  [.mark mark].intercalate items

def Roll.tokens (roll : Roll) : List Token :=
  Token.joined '&' (roll.terms.map Term.tokens)

namespace Notation

theorem written_number (number : Nat) {later : List Char}
    {tokens : List Token} (written : Written later tokens) :
    Written (lowered (toString number) ++ later)
      (.number number :: tokens) := by
  have spelled := Written.number Token.blanks_nil (digits_toDigits number)
    written
  rw [decimal_toDigits] at spelled
  rw [lowered_toString]
  exact spelled

theorem written_bonus (bonus : Int) {later : List Char}
    {tokens : List Token} (written : Written later tokens) :
    Written (lowered (Term.bonusText bonus) ++ later)
      (Term.bonusTokens bonus ++ tokens) := by
  have number := written_number bonus.natAbs written
  unfold Term.bonusText Term.bonusTokens
  by_cases positive : 0 < bonus
  · rw [if_pos positive, if_pos positive,
      toString_of_nonneg (Int.le_of_lt positive), lowered_append]
    exact .mark '+' Token.blanks_nil number
  · by_cases negative : bonus < 0
    · rw [if_neg positive, if_neg positive, if_pos negative, if_pos negative,
        toString_of_neg negative, lowered_append]
      exact .mark '-' Token.blanks_nil number
    · rw [if_neg positive, if_neg positive, if_neg negative, if_neg negative]
      exact written

theorem written_describe_term (term : Term) {later : List Char}
    {tokens : List Token} (written : Written later tokens) :
    Written (lowered term.describe ++ later) (term.tokens ++ tokens) := by
  have bonus := written_bonus term.bonus written
  have sides := written_number term.sides bonus
  have letter := Written.mark 'd' Token.blanks_nil sides
  have count := written_number term.count letter
  simpa [Term.describe, Term.tokens, lowered_append, lowered] using count

theorem blanks_space : Blanks [' '] := by
  simp [Blanks, Text.isBlank, Text.isWhiteSpace]

/-- Items are written with a blank on either side of the mark between them. -/
theorem written_intercalate {item : Type} {describe : item → String}
    {tokens : item → List Token}
    (each : ∀ item {later : List Char} {others : List Token},
      Written later others →
        Written (lowered (describe item) ++ later) (tokens item ++ others))
    {separator : String} {mark : Char}
    (separated : lowered separator = [' ', mark, ' '])
    {items : List item} (nonempty : items ≠ []) {later : List Char}
    {others : List Token} (written : Written later others) :
    Written (lowered (separator.intercalate (items.map describe)) ++ later)
      (Token.joined mark (items.map tokens) ++ others) := by
  induction items with
  | nil => exact absurd rfl nonempty
  | cons first items induction =>
      cases items with
      | nil => simpa [Token.joined] using each first written
      | cons second items =>
          have rest := (induction (by simp)).blanks blanks_space
          have marked := Written.mark mark blanks_space rest
          have whole := each first marked
          simpa [Token.joined, lowered_append, separated] using whole

theorem written_describe (roll : Roll) {later : List Char}
    {tokens : List Token} (written : Written later tokens) :
    Written (lowered roll.describe ++ later) (roll.tokens ++ tokens) :=
  written_intercalate written_describe_term (by decide) roll.terms_ne_nil
    written

theorem termForm_tokens {term : Term} (inRange : term.InRange) :
    TermForm term.tokens term := by
  have count := IntegerForm.number inRange.count_le
  have sides := IntegerForm.number inRange.sides_le
  have digits := IntegerForm.number inRange.bonus_le
  have bonus : Optionally SignedForm 0 (Term.bonusTokens term.bonus)
      term.bonus := by
    unfold Term.bonusTokens
    by_cases positive : 0 < term.bonus
    · have plus := SignedForm.plus digits
      rw [Int.natAbs_of_nonneg (Int.le_of_lt positive)] at plus
      rw [if_pos positive]
      exact .present plus
    · by_cases negative : term.bonus < 0
      · have minus := SignedForm.minus digits
        rw [Int.ofNat_natAbs_of_nonpos (Int.le_of_lt negative),
          Int.neg_neg] at minus
        rw [if_neg positive, if_pos negative]
        exact .present minus
      · have zero : term.bonus = 0 := by omega
        rw [if_neg positive, if_neg negative, zero]
        exact .absent
  exact .dice (.present count) sides bonus

theorem separatedForm_joined {item value : Type}
    {form : List Token → value → Prop} {tokens : item → List Token}
    {spelled : item → value} {mark : Char} {items : List item}
    (each : ∀ item ∈ items, form (tokens item) (spelled item))
    (nonempty : items ≠ []) :
    SeparatedForm form mark (Token.joined mark (items.map tokens))
      (items.map spelled) := by
  induction items with
  | nil => exact absurd rfl nonempty
  | cons first items induction =>
      have firstForm := each first (by simp)
      cases items with
      | nil => simpa [Token.joined] using SeparatedForm.single firstForm
      | cons second items =>
          have rest := induction
            (fun item member => each item (List.mem_cons_of_mem _ member))
            (by simp)
          simpa [Token.joined] using SeparatedForm.more firstForm rest

theorem chainForm_tokens {roll : Roll} (inRange : roll.InRange) :
    ChainForm roll.tokens roll.renested := by
  obtain ⟨first, later, terms⟩ := roll.exists_terms_eq_cons
  rw [chainForm_iff_separated]
  refine ⟨(first, later), ?_, (Roll.renested_eq_chain terms).symm⟩
  have each : ∀ term ∈ roll.terms, TermForm term.tokens (id term) :=
    fun term member => termForm_tokens (inRange term member)
  have separated : SeparatedForm TermForm '&' roll.tokens
      (roll.terms.map id) :=
    separatedForm_joined each roll.terms_ne_nil
  rwa [List.map_id, terms] at separated

theorem groupForm_tokens {roll : Roll} (inRange : roll.InRange) :
    GroupForm roll.tokens { times := 1, roll := roll.renested } :=
  .group .absent Nat.one_pos (chainForm_tokens inRange)

theorem legible_tokens_term (term : Term) :
    Legible (fun _ => True) term.tokens := by
  have sides : Legible (fun _ => True)
      (.number term.sides :: Term.bonusTokens term.bonus) := by
    unfold Term.bonusTokens
    split
    · exact .numberMark trivial (.mark (by decide) (.number trivial))
    · split
      · exact .numberMark trivial (.mark (by decide) (.number trivial))
      · exact .number trivial
  exact .numberMark trivial (.mark (by decide) sides)

theorem legible_joined {mark : Char} (visible : Visible mark)
    {items : List (List Token)}
    (each : ∀ tokens ∈ items, Legible (fun _ => True) tokens) :
    Legible (fun _ => True) (Token.joined mark items) := by
  induction items with
  | nil => exact .nil
  | cons first items induction =>
      have firstLegible := each first (by simp)
      have rest := induction fun tokens member =>
        each tokens (List.mem_cons_of_mem _ member)
      cases items with
      | nil => simpa [Token.joined] using firstLegible
      | cons second items =>
          simpa [Token.joined] using firstLegible.append_mark visible rest

theorem legible_tokens (roll : Roll) :
    Legible (fun _ => True) roll.tokens := by
  apply legible_joined (by decide)
  intro tokens member
  obtain ⟨term, _, rfl⟩ := List.mem_map.mp member
  exact legible_tokens_term term

theorem mem_joined {mark : Char} {items : List (List Token)}
    {tokens : List Token} (among : tokens ∈ items) {token : Token}
    (member : token ∈ tokens) : token ∈ Token.joined mark items := by
  induction items with
  | nil => simp at among
  | cons first items induction =>
      cases items with
      | nil =>
          cases List.mem_singleton.mp among
          simpa [Token.joined] using member
      | cons second items =>
          rcases List.mem_cons.mp among with rfl | later
          · simp [Token.joined, member]
          · have rest := induction later
            simp only [Token.joined] at rest
            simp [Token.joined, rest]

/-- The numbers of a term all show in its tokens, but for a zero bonus. -/
theorem inRange_of_allowed {term : Term}
    (allowed : ∀ number, .number number ∈ term.tokens →
      number ≤ Cursor.largest) : term.InRange := by
  constructor
  · exact allowed term.count (by simp [Term.tokens])
  · exact allowed term.sides (by simp [Term.tokens])
  · by_cases positive : 0 < term.bonus
    · exact allowed _ (by simp [Term.tokens, Term.bonusTokens, positive])
    · by_cases negative : term.bonus < 0
      · exact allowed _
          (by simp [Term.tokens, Term.bonusTokens, positive, negative])
      · have zero : term.bonus = 0 := by omega
        simp [zero]

theorem written_describe_rolls {rolls : List Roll} (nonempty : rolls ≠ []) :
    Written (lowered (" ; ".intercalate (rolls.map Roll.describe)))
      (Token.joined ';' (rolls.map Roll.tokens)) := by
  have separated : lowered " ; " = [' ', ';', ' '] := by decide
  have written := written_intercalate written_describe separated nonempty
    (.done Token.blanks_nil)
  simpa using written

theorem groups?_describe {rolls : List Roll} (nonempty : rolls ≠ [])
    (inRange : ∀ roll ∈ rolls, roll.InRange) :
    groups? (" ; ".intercalate (rolls.map Roll.describe)) =
      some (rolls.map fun roll => { times := 1, roll := roll.renested }) := by
  rw [groups?_eq_some_iff_spells]
  refine ⟨_, written_describe_rolls nonempty, ?_⟩
  exact separatedForm_joined
    (fun roll member => groupForm_tokens (inRange roll member)) nonempty

theorem rolls?_of_inRange {rolls : List Roll} (nonempty : rolls ≠ [])
    (inRange : ∀ roll ∈ rolls, roll.InRange) :
    rolls? (" ; ".intercalate (rolls.map Roll.describe)) =
      some (rolls.map Roll.renested) := by
  rw [rolls?, groups?_describe nonempty inRange, Option.map_some,
    List.flatMap_map, List.map_eq_flatMap]
  rfl

theorem rolls?_describe_single {roll : Roll} (nested : roll.RightNested)
    (inRange : roll.InRange) : rolls? roll.describe = some [roll] := by
  have read := @rolls?_of_inRange [roll] (by simp) (by simpa using inRange)
  simpa [nested.renested_eq] using read

/-- A description in which a number cannot be read spells nothing. -/
theorem inRange_of_groups?_describe {rolls : List Roll}
    {groups : List Group} (nonempty : rolls ≠ [])
    (read : groups? (" ; ".intercalate (rolls.map Roll.describe)) =
      some groups) :
    ∀ roll ∈ rolls, roll.InRange := by
  have legible : Legible (fun _ => True)
      (Token.joined ';' (rolls.map Roll.tokens)) := by
    apply legible_joined (by decide)
    intro tokens member
    obtain ⟨roll, _, rfl⟩ := List.mem_map.mp member
    exact legible_tokens roll
  -- No other tokens are scanned, so the form is one of these tokens.
  have form := groups?_eq_some_iff_scan.mp read
  rw [legible.scan_eq (written_describe_rolls nonempty)] at form
  intro roll rollMember term termMember
  apply inRange_of_allowed
  intro number member
  apply form.readable.allowed_of_mem
  exact mem_joined (List.mem_map_of_mem rollMember)
    (mem_joined (List.mem_map_of_mem termMember) member)

/-- Joined descriptions are read back as the same rolls nested to the right if
every number in them can be read, and they are not read otherwise. -/
theorem rolls?_describe (rolls : List Roll) (nonempty : rolls ≠ []) :
    ((∀ roll ∈ rolls, roll.InRange) →
      rolls? (" ; ".intercalate (rolls.map Roll.describe)) =
        some (rolls.map Roll.renested)) ∧
    ((¬∀ roll ∈ rolls, roll.InRange) →
      rolls? (" ; ".intercalate (rolls.map Roll.describe)) = none) ∧
    (rolls.map Roll.renested).map Roll.describe = rolls.map Roll.describe ∧
    ∀ roll ∈ rolls,
      roll.renested.RightNested ∧ roll.renested.terms = roll.terms ∧
        (roll.RightNested → roll.renested = roll) := by
  refine ⟨?_, ?_, ?_, ?_⟩
  · exact rolls?_of_inRange nonempty
  · intro outside
    rw [rolls?, Option.map_eq_none_iff]
    cases read : groups? (" ; ".intercalate (rolls.map Roll.describe)) with
    | none => rfl
    | some groups =>
        exact absurd (inRange_of_groups?_describe nonempty read) outside
  · simp [Roll.describe_renested]
  · intro roll _
    exact ⟨roll.rightNested_renested, roll.terms_renested,
      fun nested => nested.renested_eq⟩

def leftJoined : Roll :=
  let small : Term :=
    { count := 2, sides := 6, bonus := 3
      count_pos := by decide, sides_pos := by decide }
  let large : Term :=
    { count := 1, sides := 2147483647, bonus := -2147483647
      count_pos := by decide, sides_pos := by decide }
  .joined (.joined (.single small) (.single large)) (.single small)

theorem rolls?_describe_leftJoined :
    [leftJoined] ≠ [] ∧ leftJoined.renested ≠ leftJoined ∧
      rolls? (" ; ".intercalate ([leftJoined].map Roll.describe)) =
        some [leftJoined.renested] := by
  have inRange : ∀ roll ∈ [leftJoined], roll.InRange := by
    intro roll member term termMember
    cases List.mem_singleton.mp member
    simp only [leftJoined, Roll.terms_joined, Roll.terms_single,
      List.cons_append, List.nil_append, List.mem_cons, List.not_mem_nil,
      or_false] at termMember
    rcases termMember with rfl | rfl | rfl <;>
      exact ⟨by decide, by decide, by decide⟩
  refine ⟨by simp, ?_, (rolls?_describe [leftJoined] (by simp)).1 inRange⟩
  intro same
  have nested := leftJoined.rightNested_renested
  rw [same] at nested
  cases nested

end Notation

end DiceRoller
