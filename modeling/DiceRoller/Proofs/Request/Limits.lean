import DiceRoller.Proofs.Notation.Image
import DiceRoller.Proofs.Request.Reading
import DiceRoller.Proofs.Text.Trimmed
import Mathlib.Algebra.GroupWithZero.Nat

/-!
# Requests within limits

The limits are checked on groups that are not expanded, and they bound the
rolls that the groups stand for.  Apart from the text itself, what becomes of a
text depends on nothing but the rolls that it spells.
-/

namespace DiceRoller

open Text (isBlank trim)

theorem exceeded_some (allowed : Int) (number : Nat) :
    exceeded (some allowed) number =
      if allowed < number then some allowed else none := by
  simp [exceeded, Option.filter]

theorem exceeded_eq_none_iff {limit : Option Int} {number : Nat} :
    exceeded limit number = none ↔
      ∀ allowed ∈ limit, (number : Int) ≤ allowed := by
  simp [exceeded, Option.filter_eq_none_iff]

namespace Notation

theorem GroupForm.tokens_ne_nil {tokens : List Token} {group : Group}
    (form : GroupForm tokens group) : tokens ≠ [] := by
  cases form with
  | group _ _ chain =>
      rcases chain.opening with ⟨later, rfl⟩ | ⟨count, later, rfl⟩ <;> simp

theorem rollCount_eq_length (groups : List Group) :
    rollCount groups = (groups.flatMap Group.rolls).length := by
  simp [rollCount, List.length_flatMap, Group.rolls, List.sum_eq_foldr]

theorem longestRoll?_eq_some_iff {groups : List Group} {longest : Nat} :
    longestRoll? groups = some longest ↔
      (∃ group ∈ groups, group.roll.termCount = longest) ∧
        ∀ group ∈ groups, group.roll.termCount ≤ longest := by
  simp [longestRoll?, List.max?_eq_some_iff]

/-- There is a longest of the groups that a text spells, as there is a group. -/
theorem exists_longestRoll? {text : String} {groups : List Group}
    (read : groups? text = some groups) :
    ∃ longest, longestRoll? groups = some longest := by
  have nonempty := (groups?_spelled read).1
  exact Option.isSome_iff_exists.mp
    (List.isSome_max?_of_ne_nil (mt List.map_eq_nil_iff.mp nonempty))

/-- Each roll of a group that is thrown is among the rolls that the groups
stand for, so that their longest rolls are the same. -/
theorem longestRoll?_eq_some_iff_rolls {groups : List Group}
    (thrown : ∀ group ∈ groups, 0 < group.times) {longest : Nat} :
    longestRoll? groups = some longest ↔
      (∃ roll ∈ groups.flatMap Group.rolls, roll.termCount = longest) ∧
        ∀ roll ∈ groups.flatMap Group.rolls, roll.termCount ≤ longest := by
  have among (roll : Roll) : roll ∈ groups.flatMap Group.rolls ↔
      ∃ group ∈ groups, group.roll = roll := by
    rw [List.mem_flatMap]
    constructor
    · rintro ⟨group, member, copy⟩
      exact ⟨group, member, (List.eq_of_mem_replicate copy).symm⟩
    · rintro ⟨group, member, rfl⟩
      exact ⟨group, member,
        List.mem_replicate.mpr ⟨Nat.ne_of_gt (thrown group member), rfl⟩⟩
  simp [longestRoll?_eq_some_iff, among]

theorem trim_ne_nil {text : String} {groups : List Group}
    (read : groups? text = some groups) : trim isBlank text.toList ≠ [] := by
  intro nothing
  have blank := blanks_lowered.mpr (Text.trim_eq_nil_iff.mp nothing)
  have unscanned := Token.scan_blanks blank []
  rw [List.append_nil, Token.scan_nil] at unscanned
  have form := groups?_eq_some_iff_scan.mp read
  rw [unscanned] at form
  obtain ⟨front, first, later, formed, shape⟩ := form.exists_front
  obtain ⟨rfl, _⟩ := List.append_eq_nil_iff.mp shape.symm
  exact formed.tokens_ne_nil rfl

end Notation

/-- The rolls keep the limits. -/
structure Limits.Admits (limits : Limits) (rolls : List Roll) : Prop where
  length_le : ∀ most ∈ limits.rolls, (rolls.length : Int) ≤ most
  terms_le : ∀ most ∈ limits.terms, ∀ roll ∈ rolls,
    (roll.termCount : Int) ≤ most

/-- The rolls keep the limits of the settings and have no more dice than these
allow. -/
structure Settings.Admits (settings : Settings) (rolls : List Roll) : Prop
    extends settings.limits.Admits rolls where
  dice_le : ((rolls.map Roll.diceCount).sum : Int) ≤ settings.maxDice

theorem Settings.limits_admits_iff {settings : Settings} {rolls : List Roll} :
    settings.limits.Admits rolls ↔
      (rolls.length : Int) ≤ settings.maxRolls ∧
        ∀ roll ∈ rolls, (roll.termCount : Int) ≤ settings.maxTerms := by
  constructor
  · exact fun admits =>
      ⟨admits.length_le _ rfl, admits.terms_le _ rfl⟩
  · rintro ⟨few, short⟩
    constructor
    · rintro most ⟨⟩
      exact few
    · rintro most ⟨⟩
      exact short

private theorem sum_le_of_sublist {part all : List Nat}
    (among : part.Sublist all) : part.sum ≤ all.sum := by
  induction among with
  | slnil => exact Nat.le_refl 0
  | cons number _ induction =>
      rw [List.sum_cons]
      exact Nat.le_trans induction (Nat.le_add_left _ number)
  | cons_cons number _ induction =>
      rw [List.sum_cons, List.sum_cons]
      exact Nat.add_le_add_left induction number

/-- What keeps the limits keeps them without some of its rolls. -/
theorem Settings.Admits.of_sublist {settings : Settings}
    {part rolls : List Roll} (admits : settings.Admits rolls)
    (among : part.Sublist rolls) : settings.Admits part := by
  have fewerDice := sum_le_of_sublist (among.map Roll.diceCount)
  constructor
  · constructor
    · intro most limit
      exact Int.le_trans (Int.ofNat_le.mpr among.length_le)
        (admits.length_le most limit)
    · intro most limit roll member
      exact admits.terms_le most limit roll (among.subset member)
  · exact Int.le_trans (Int.ofNat_le.mpr fewerDice) admits.dice_le

namespace Request

open Notation

variable {limits : Limits} {settings : Settings} {text other : String}
  {rolls : List Roll} {journal : Journal} {request : Request}

def ofRolls (text : String) (rolls : List Roll) : Request :=
  { text, rolls, descriptions := rolls.map Roll.describe }

theorem read_of_groups? {groups : List Group}
    (found : groups? text = some groups) (limits : Limits) (journal : Journal) :
    (read limits text journal).1 = checked limits text groups := by
  obtain ⟨first, later, shown⟩ :=
    List.exists_cons_of_ne_nil (trim_ne_nil found)
  rw [read_fst, shown, found]

/-- With a longest roll the limits are compared one after the other. -/
theorem checked_of_longest {groups : List Group} {longest : Nat}
    (extremal : longestRoll? groups = some longest) (limits : Limits)
    (text : String) :
    checked limits text groups =
      match exceeded limits.rolls (rollCount groups) with
      | some allowed =>
          .error (.rejected (.tooManyRolls (rollCount groups) allowed))
      | none =>
          match exceeded limits.terms longest with
          | some allowed => .error (.rejected (.tooManyTerms longest allowed))
          | none => .ok (ofGroups text groups) := by
  unfold checked checkedTerms
  rw [extremal]
  cases exceeded limits.rolls (rollCount groups) with
  | some allowed => rfl
  | none =>
      cases limits.terms with
      | none => rfl
      | some allowed =>
          dsimp only
          rw [exceeded_some]
          by_cases long : allowed < longest <;> simp [long]

/-- The request with its text spelled in another way. -/
def retext (other : String) (request : Request) : Request :=
  { request with text := other }

@[simp] theorem diceCount_retext (other : String) (request : Request) :
    (request.retext other).diceCount = request.diceCount := rfl

/-- Groups that stand for the same rolls are checked alike. -/
theorem checked_retext {groups others : List Group}
    (found : groups? text = some groups) (same : groups? other = some others)
    (rolls : groups.flatMap Group.rolls = others.flatMap Group.rolls)
    (limits : Limits) :
    (checked limits text groups).map (retext other) =
      checked limits other others := by
  obtain ⟨longest, extremal⟩ := exists_longestRoll? found
  have thrown : ∀ group ∈ groups, 0 < group.times := fun group member =>
    ((groups?_spelled found).2 group member).times_pos
  have othersThrown : ∀ group ∈ others, 0 < group.times :=
    fun group member => ((groups?_spelled same).2 group member).times_pos
  have otherExtremal : longestRoll? others = some longest := by
    rw [longestRoll?_eq_some_iff_rolls othersThrown, ← rolls,
      ← longestRoll?_eq_some_iff_rolls thrown]
    exact extremal
  have counts : rollCount groups = rollCount others := by
    rw [rollCount_eq_length, rollCount_eq_length, rolls]
  rw [checked_of_longest extremal, checked_of_longest otherExtremal, counts]
  cases exceeded limits.rolls (rollCount others) with
  | some allowed => rfl
  | none =>
      cases exceeded limits.terms longest with
      | some allowed => rfl
      | none => simp only [Except.map, retext, ofGroups, rolls]

/-- Texts that spell the same rolls are read to the same request, apart from
the text. -/
theorem read_retext (spelled : rolls? text = some rolls)
    (same : rolls? other = some rolls) (limits : Limits) (journal : Journal) :
    (read limits text journal).1.map (retext other) =
      (read limits other journal).1 := by
  obtain ⟨groups, found, rfl⟩ := Option.map_eq_some_iff.mp spelled
  obtain ⟨others, otherFound, rolls⟩ := Option.map_eq_some_iff.mp same
  rw [read_of_groups? found, read_of_groups? otherFound,
    checked_retext found otherFound rolls.symm]

theorem checked_eq_ok_iff {groups : List Group}
    (found : groups? text = some groups) :
    checked limits text groups = .ok request ↔
      limits.Admits (groups.flatMap Group.rolls) ∧
        request = ofGroups text groups := by
  obtain ⟨longest, extremal⟩ := exists_longestRoll? found
  have thrown : ∀ group ∈ groups, 0 < group.times := fun group member =>
    ((groups?_spelled found).2 group member).times_pos
  obtain ⟨⟨roll, member, count⟩, atMost⟩ :=
    (longestRoll?_eq_some_iff_rolls thrown).mp extremal
  have admits_iff : limits.Admits (groups.flatMap Group.rolls) ↔
      exceeded limits.rolls (rollCount groups) = none ∧
        exceeded limits.terms longest = none := by
    rw [exceeded_eq_none_iff, exceeded_eq_none_iff, rollCount_eq_length]
    constructor
    · intro admits
      refine ⟨admits.length_le, fun most limit => ?_⟩
      rw [← count]
      exact admits.terms_le most limit roll member
    · rintro ⟨few, short⟩
      refine ⟨few, fun most limit other among => ?_⟩
      exact Int.le_trans (Int.ofNat_le.mpr (atMost other among))
        (short most limit)
  rw [admits_iff, checked_of_longest extremal]
  cases exceeded limits.rolls (rollCount groups) with
  | some allowed => simp
  | none =>
      cases exceeded limits.terms longest with
      | some allowed => simp
      | none => simp [eq_comm]

theorem read_eq_ok_iff :
    (read limits text journal).1 = .ok request ↔
      ∃ rolls, rolls? text = some rolls ∧ limits.Admits rolls ∧
        request = ofRolls text rolls := by
  constructor
  · intro accepted
    obtain ⟨groups, found, _⟩ := read_eq_ok accepted
    rw [read_of_groups? found] at accepted
    have spelled : rolls? text = some (groups.flatMap Group.rolls) := by
      rw [rolls?, found, Option.map_some]
    exact ⟨_, spelled, (checked_eq_ok_iff found).mp accepted⟩
  · rintro ⟨rolls, spelled, kept⟩
    obtain ⟨groups, found, rfl⟩ := Option.map_eq_some_iff.mp spelled
    rw [read_of_groups? found]
    exact (checked_eq_ok_iff found).mpr kept

theorem read_of_admits (spelled : rolls? text = some rolls)
    (admits : limits.Admits rolls) (journal : Journal) :
    (read limits text journal).1 = .ok (ofRolls text rolls) :=
  read_eq_ok_iff.mpr ⟨rolls, spelled, admits, rfl⟩

theorem diceCount_pos (accepted : (read limits text journal).1 = .ok request) :
    0 < request.diceCount := by
  obtain ⟨groups, found, rfl⟩ := read_eq_ok accepted
  obtain ⟨first, later, rolls⟩ :=
    List.exists_cons_of_ne_nil (rolls_ne_nil found)
  rw [diceCount, ofGroups, rolls, List.map_cons, List.foldr_cons]
  exact Nat.add_pos_left first.diceCount_pos _

theorem readWithin_eq_ok_iff :
    (readWithin settings text journal).1 = .ok request ↔
      (read settings.limits text journal).1 = .ok request ∧
        (request.diceCount : Int) ≤ settings.maxDice := by
  rw [readWithin_fst]
  cases (read settings.limits text journal).1 with
  | error rejection => simp
  | ok found =>
      dsimp only
      rw [exceeded_some]
      by_cases many : settings.maxDice < found.diceCount
      · have exceeds : ¬(found.diceCount : Int) ≤ settings.maxDice :=
          Int.not_le.mpr many
        simp only [if_pos many, reduceCtorEq, Except.ok.injEq, false_iff]
        rintro ⟨rfl, few⟩
        exact exceeds few
      · have few := Int.not_lt.mp many
        simp only [if_neg many, Except.ok.injEq]
        exact ⟨fun same => ⟨same, same ▸ few⟩, fun kept => kept.1⟩

theorem readWithin_eq_error_iff {failure : Failure} :
    (readWithin settings text journal).1 = .error failure ↔
      (read settings.limits text journal).1 = .error failure ∨
        ∃ request, (read settings.limits text journal).1 = .ok request ∧
          settings.maxDice < request.diceCount ∧
          failure =
            .rejected (.tooManyDice request.diceCount settings.maxDice) := by
  rw [readWithin_fst]
  cases (read settings.limits text journal).1 with
  | error found => simp
  | ok found =>
      dsimp only
      rw [exceeded_some]
      by_cases many : settings.maxDice < found.diceCount
      · simp [many, eq_comm]
      · simp [many]

/-- A text that is not read is rejected: it is never asked for the longest of
no rolls.  Its dice are not counted yet. -/
theorem exists_rejection_of_read {failure : Failure}
    (failed : (read limits text journal).1 = .error failure) :
    ∃ rejection, failure = .rejected rejection ∧
      ∀ requested allowed, rejection ≠ .tooManyDice requested allowed := by
  cases found : groups? text with
  | none =>
      rw [read_fst, found] at failed
      split at failed <;> cases failed
      · exact ⟨_, rfl, by simp⟩
      · exact ⟨_, rfl, by simp⟩
  | some groups =>
      obtain ⟨longest, extremal⟩ := exists_longestRoll? found
      rw [read_of_groups? found, checked_of_longest extremal] at failed
      split at failed
      · cases failed
        exact ⟨_, rfl, by simp⟩
      · split at failed <;> cases failed
        exact ⟨_, rfl, by simp⟩

theorem read_ne_faulted (fault : Fault) :
    (read limits text journal).1 ≠ .error (.faulted fault) := by
  intro failed
  obtain ⟨_, impossible, _⟩ := exists_rejection_of_read failed
  cases impossible

theorem readWithin_ne_faulted (fault : Fault) :
    (readWithin settings text journal).1 ≠ .error (.faulted fault) := by
  intro failed
  rcases readWithin_eq_error_iff.mp failed with unread | ⟨_, _, _, impossible⟩
  · exact read_ne_faulted fault unread
  · cases impossible

theorem readWithin_retext (spelled : rolls? text = some rolls)
    (same : rolls? other = some rolls) (settings : Settings)
    (journal : Journal) :
    (readWithin settings text journal).1.map (retext other) =
      (readWithin settings other journal).1 := by
  rw [readWithin_fst, readWithin_fst,
    ← read_retext spelled same settings.limits journal]
  cases (read settings.limits text journal).1 with
  | error rejection => rfl
  | ok request =>
      simp only [Except.map, diceCount_retext]
      cases exceeded (some settings.maxDice) request.diceCount <;> rfl

theorem readWithin_eq_ok_iff_admits :
    (readWithin settings text journal).1 = .ok request ↔
      ∃ rolls, rolls? text = some rolls ∧ settings.Admits rolls ∧
        request = ofRolls text rolls := by
  rw [readWithin_eq_ok_iff, read_eq_ok_iff]
  constructor
  · rintro ⟨⟨rolls, spelled, admits, rfl⟩, few⟩
    exact ⟨rolls, spelled, ⟨admits, few⟩, rfl⟩
  · rintro ⟨rolls, spelled, admits, rfl⟩
    exact ⟨⟨rolls, spelled, admits.toAdmits, rfl⟩, admits.dice_le⟩

end Request

end DiceRoller
