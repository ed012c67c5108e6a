import DiceRoller.Proofs.Request.Limits

/-!
# What becomes of a text

A text is read to the rolls that it spells, or it is told the first thing that
is wrong with it: that it spells none, that these are too many, or that one of
them joins too many terms.  Each message carries the numbers that it is about.
-/

namespace DiceRoller

open Text (isBlank trim)

theorem exceeded_eq_some_iff {limit : Option Int} {number : Nat}
    {allowed : Int} :
    exceeded limit number = some allowed ↔
      limit = some allowed ∧ allowed < number := by
  simp [exceeded, Option.filter_eq_some_iff]

namespace Text

/-- The text begins with the opening. -/
def Opens (opening text : String) : Prop :=
  ∃ detail, text = opening ++ detail

namespace Opens

variable {opening other text : String}

theorem append (opens : Opens opening text) (more : String) :
    Opens opening (text ++ more) := by
  obtain ⟨detail, rfl⟩ := opens
  exact ⟨detail ++ more, String.append_assoc⟩

/-- Two openings of one text begin with the same characters. -/
theorem take_eq (opens : Opens opening text) (others : Opens other text)
    {count : Nat} (few : count ≤ opening.toList.length)
    (otherFew : count ≤ other.toList.length) :
    opening.toList.take count = other.toList.take count := by
  obtain ⟨detail, rfl⟩ := opens
  obtain ⟨otherDetail, same⟩ := others
  have marks := congrArg (fun text => text.toList.take count) same
  simp only [String.toList_append] at marks
  rwa [List.take_append_of_le_length few,
    List.take_append_of_le_length otherFew] at marks

end Opens

end Text

namespace Rejection

open Text (Opens)

/-- The word that the message begins with. -/
def code : Rejection → String
  | .blank => "[UNPARSEABLE_INPUT]"
  | .unreadable _ => "[UNPARSEABLE_INPUT]"
  | .tooManyRolls _ _ => "[TOO_MANY_ROLLS]"
  | .tooManyTerms _ _ => "[TOO_MANY_TERMS]"
  | .tooManyDice _ _ => "[TOO_MANY_DICE]"

theorem opens_message (rejection : Rejection) :
    Opens rejection.code rejection.message := by
  cases rejection with
  | blank =>
      have opening : Opens "[UNPARSEABLE_INPUT]"
          "[UNPARSEABLE_INPUT] Empty input." := ⟨" Empty input.", rfl⟩
      exact opening.append _
  | unreadable text =>
      have opening : Opens "[UNPARSEABLE_INPUT]"
          "[UNPARSEABLE_INPUT] Could not understand '" :=
        ⟨" Could not understand '", rfl⟩
      exact ((opening.append _).append _).append _
  | tooManyRolls requested allowed =>
      have opening : Opens "[TOO_MANY_ROLLS]" "[TOO_MANY_ROLLS] " := ⟨" ", rfl⟩
      exact ((((opening.append _).append _).append _).append _).append _
  | tooManyTerms longest allowed =>
      have opening : Opens "[TOO_MANY_TERMS]"
          "[TOO_MANY_TERMS] A roll joins " := ⟨" A roll joins ", rfl⟩
      exact ((((opening.append _).append _).append _).append _).append _
  | tooManyDice requested allowed =>
      have opening : Opens "[TOO_MANY_DICE]" "[TOO_MANY_DICE] " := ⟨" ", rfl⟩
      exact (((opening.append _).append _).append _).append _

def codes : List String :=
  ["[UNPARSEABLE_INPUT]", "[TOO_MANY_ROLLS]", "[TOO_MANY_TERMS]",
    "[TOO_MANY_DICE]"]

theorem code_mem_codes (rejection : Rejection) : rejection.code ∈ codes := by
  cases rejection <;> simp [code, codes]

/-- Eleven characters tell the codes from each other. -/
theorem codes_apart : ∀ code ∈ codes, 11 ≤ code.toList.length ∧
    ∀ other ∈ codes, code.toList.take 11 = other.toList.take 11 →
      code = other := by
  decide

/-- A message begins with no other code than its own. -/
theorem opens_message_iff {rejection other : Rejection} :
    Opens other.code rejection.message ↔ rejection.code = other.code := by
  obtain ⟨long, differs⟩ := codes_apart _ rejection.code_mem_codes
  obtain ⟨otherLong, _⟩ := codes_apart _ other.code_mem_codes
  constructor
  · intro opens
    exact differs _ other.code_mem_codes
      (rejection.opens_message.take_eq opens long otherLong)
  · intro same
    rw [← same]
    exact rejection.opens_message

theorem opens_unparseable_iff {rejection : Rejection} :
    Opens "[UNPARSEABLE_INPUT]" rejection.message ↔
      rejection = .blank ∨ ∃ text, rejection = .unreadable text := by
  refine (@opens_message_iff rejection .blank).trans ?_
  cases rejection <;> simp [code]

theorem opens_tooManyDice_iff {rejection : Rejection} :
    Opens "[TOO_MANY_DICE]" rejection.message ↔
      ∃ requested allowed, rejection = .tooManyDice requested allowed := by
  refine (@opens_message_iff rejection (.tooManyDice 0 0)).trans ?_
  cases rejection <;> simp [code]

end Rejection

namespace Request

open Notation
open Text (Encloses Opens trim_eq_nil_iff encloses_trim)

variable {limits : Limits} {text : String} {groups : List Group}
  {journal : Journal}

/-- How a text is refused that spells no rolls. -/
def refusal (text : String) : Rejection :=
  match trim isBlank text.toList with
  | [] => .blank
  | first :: later => .unreadable (String.ofList (first :: later))

theorem opens_message_refusal (text : String) :
    Opens "[UNPARSEABLE_INPUT]" (refusal text).message := by
  rw [Rejection.opens_unparseable_iff, refusal]
  split
  · exact .inl rfl
  · exact .inr ⟨_, rfl⟩

theorem refusal_of_blank
    (blank : ∀ character ∈ text.toList, isBlank character = true) :
    refusal text = .blank := by
  rw [refusal, trim_eq_nil_iff.mpr blank]

theorem refusal_of_encloses {inner : List Char}
    (encloses : Encloses isBlank text.toList inner) :
    refusal text = .unreadable (String.ofList inner) := by
  obtain ⟨first, later, rfl⟩ := List.exists_cons_of_ne_nil encloses.nonempty
  rw [refusal, encloses.trim_eq]

theorem read_of_none (unread : groups? text = none) (limits : Limits)
    (journal : Journal) :
    (read limits text journal).1 = .error (.rejected (refusal text)) := by
  rw [read_fst, unread, refusal]
  cases trim isBlank text.toList <;> rfl

theorem groups?_of_blank
    (blank : ∀ character ∈ text.toList, isBlank character = true) :
    groups? text = none := by
  rw [← Option.not_isSome_iff_eq_none, Option.isSome_iff_exists]
  rintro ⟨groups, found⟩
  exact trim_ne_nil found (trim_eq_nil_iff.mpr blank)

theorem checked_eq_error_iff (found : groups? text = some groups)
    {rejection : Rejection} :
    checked limits text groups = .error (.rejected rejection) ↔
      (∃ most, limits.rolls = some most ∧
        most < (groups.flatMap Group.rolls).length ∧
        rejection =
          .tooManyRolls (groups.flatMap Group.rolls).length most) ∨
      ∃ (longest : Nat) (most : Int),
        (∀ most ∈ limits.rolls,
          ((groups.flatMap Group.rolls).length : Int) ≤ most) ∧
        limits.terms = some most ∧ most < longest ∧
        longestRoll? groups = some longest ∧
        rejection = .tooManyTerms longest most := by
  obtain ⟨longest, extremal⟩ := exists_longestRoll? found
  rw [checked_of_longest extremal, ← exceeded_eq_none_iff,
    ← rollCount_eq_length, extremal]
  constructor
  · intro refused
    split at refused
    · next most exceeds =>
        obtain ⟨limit, more⟩ := exceeded_eq_some_iff.mp exceeds
        cases refused
        exact .inl ⟨most, limit, more, rfl⟩
    · next few =>
        split at refused
        · next most exceeds =>
            obtain ⟨limit, more⟩ := exceeded_eq_some_iff.mp exceeds
            cases refused
            exact .inr ⟨longest, most, few, limit, more, rfl, rfl⟩
        · cases refused
  · rintro (⟨most, limit, more, rfl⟩ |
      ⟨_, most, few, limit, more, same, rfl⟩)
    · rw [exceeded_eq_some_iff.mpr ⟨limit, more⟩]
    · cases same
      rw [few, exceeded_eq_some_iff.mpr ⟨limit, more⟩]

theorem unparseable_iff :
    (∃ rejection, (read limits text journal).1 = .error (.rejected rejection) ∧
      Opens "[UNPARSEABLE_INPUT]" rejection.message) ↔
      rolls? text = none := by
  rw [rolls?, Option.map_eq_none_iff]
  cases found : groups? text with
  | none =>
      rw [read_of_none found]
      simp [opens_message_refusal]
  | some groups =>
      rw [read_of_groups? found]
      simp only [reduceCtorEq, iff_false]
      rintro ⟨rejection, refused, unparseable⟩
      rcases (checked_eq_error_iff found).mp refused with
        ⟨_, _, _, rfl⟩ | ⟨_, _, _, _, _, _, rfl⟩ <;>
        simp [Rejection.opens_unparseable_iff] at unparseable

theorem height_of_read {request : Request}
    (accepted : (read limits text journal).1 = .ok request) :
    ∀ roll ∈ request.rolls, roll.height + 1 = roll.termCount := by
  obtain ⟨groups, found, rfl⟩ := read_eq_ok accepted
  intro roll member
  exact (spelled_of_mem_rolls found member).1.height_add_one

/-- What a text is told that is not read: that it spells nothing, or else how
many rolls it spells if these are too many, or else how many terms its longest
roll joins if these are too many. -/
inductive Told (limits : Limits) (text : String) : String → Prop where
  | blank :
      (∀ character ∈ text.toList, isBlank character = true) →
      Told limits text ("[UNPARSEABLE_INPUT] Empty input." ++
        " Example: '4x3d8-5 & 2d6 ; d20'.")
  | unreadable {inner : List Char} :
      rolls? text = none → Encloses isBlank text.toList inner →
      Told limits text ("[UNPARSEABLE_INPUT] Could not understand '" ++
        String.ofList inner ++ "'." ++ " Example: '4x3d8-5 & 2d6 ; d20'.")
  | tooManyRolls {rolls : List Roll} {most : Int} :
      rolls? text = some rolls → limits.rolls = some most →
      most < rolls.length →
      Told limits text ("[TOO_MANY_ROLLS] " ++ toString rolls.length ++
        " rolls requested, at most " ++ toString most ++ " are allowed." ++
        " Example: '4x3d8-5 & 2d6 ; d20'.")
  | tooManyTerms {groups : List Group} {longest : Nat} {most : Int} :
      groups? text = some groups →
      (∀ most ∈ limits.rolls,
        ((groups.flatMap Group.rolls).length : Int) ≤ most) →
      limits.terms = some most → most < longest →
      (∃ group ∈ groups, group.roll.termCount = longest) →
      (∀ group ∈ groups, group.roll.termCount ≤ longest) →
      Told limits text ("[TOO_MANY_TERMS] A roll joins " ++
        toString longest ++ " terms with '&', at most " ++ toString most ++
        " are allowed." ++ " Example: '4x3d8-5 & 2d6 ; d20'.")

theorem told_of_refused {rejection : Rejection}
    (refused : (read limits text journal).1 = .error (.rejected rejection)) :
    Told limits text rejection.message := by
  cases found : groups? text with
  | none =>
      have unread : rolls? text = none := Option.map_eq_none_iff.mpr found
      rw [read_of_none found] at refused
      cases refused
      by_cases blank : trim isBlank text.toList = []
      · have allBlank := trim_eq_nil_iff.mp blank
        rw [refusal_of_blank allBlank]
        exact .blank allBlank
      · rw [refusal_of_encloses (encloses_trim blank)]
        exact .unreadable unread (encloses_trim blank)
  | some groups =>
      have spelled : rolls? text = some (groups.flatMap Group.rolls) := by
        rw [rolls?, found, Option.map_some]
      rw [read_of_groups? found] at refused
      rcases (checked_eq_error_iff found).mp refused with
        ⟨most, limit, more, rfl⟩ |
        ⟨longest, most, few, limit, more, extremal, rfl⟩
      · exact .tooManyRolls spelled limit more
      · obtain ⟨reached, atMost⟩ := longestRoll?_eq_some_iff.mp extremal
        exact .tooManyTerms found few limit more reached atMost

theorem refused_of_told {message : String} (told : Told limits text message)
    (journal : Journal) :
    ∃ rejection, (read limits text journal).1 = .error (.rejected rejection) ∧
      rejection.message = message := by
  cases told with
  | blank blank =>
      refine ⟨.blank, ?_, rfl⟩
      rw [read_of_none (groups?_of_blank blank), refusal_of_blank blank]
  | @unreadable inner unread encloses =>
      refine ⟨.unreadable (String.ofList inner), ?_, rfl⟩
      rw [read_of_none (Option.map_eq_none_iff.mp unread),
        refusal_of_encloses encloses]
  | @tooManyRolls rolls most spelled limit more =>
      obtain ⟨groups, found, rfl⟩ := Option.map_eq_some_iff.mp spelled
      refine ⟨.tooManyRolls (groups.flatMap Group.rolls).length most, ?_, rfl⟩
      rw [read_of_groups? found, checked_eq_error_iff found]
      exact .inl ⟨most, limit, more, rfl⟩
  | @tooManyTerms groups longest most found few limit more reached atMost =>
      refine ⟨.tooManyTerms longest most, ?_, rfl⟩
      rw [read_of_groups? found, checked_eq_error_iff found]
      exact .inr ⟨longest, most, few, limit, more,
        longestRoll?_eq_some_iff.mpr ⟨reached, atMost⟩, rfl⟩

/-- A text is read exactly if it spells rolls that keep both limits, as these
rolls with their descriptions.  If not, it is told that it spells none, or
else how many rolls it spells if these are too many, or else how many terms
its longest roll joins; it is told nothing else, and nothing else goes wrong. -/
theorem read_exact (limits : Limits) (text : String) (journal : Journal) :
    let reading := (read limits text journal).1
    (∀ request, reading = .ok request ↔
      ∃ rolls, rolls? text = some rolls ∧
        (∀ most ∈ limits.rolls, (rolls.length : Int) ≤ most) ∧
        (∀ most ∈ limits.terms, ∀ roll ∈ rolls,
          (roll.termCount : Int) ≤ most) ∧
        request = { text, rolls, descriptions := rolls.map Roll.describe }) ∧
    (∀ request, reading = .ok request → ∀ roll ∈ request.rolls,
      roll.height + 1 = roll.termCount ∧
        ∀ most ∈ limits.terms, (roll.height : Int) < most) ∧
    (∀ message,
      (∃ rejection, reading = .error (.rejected rejection) ∧
        rejection.message = message) ↔ Told limits text message) ∧
    ((∃ rejection, reading = .error (.rejected rejection) ∧
      Opens "[UNPARSEABLE_INPUT]" rejection.message) ↔
        rolls? text = none) ∧
    ∀ fault, reading ≠ .error (.faulted fault) := by
  intro reading
  refine ⟨fun request => ?_, ?_, fun message => ?_, unparseable_iff,
    read_ne_faulted⟩
  · rw [read_eq_ok_iff]
    constructor
    · rintro ⟨rolls, spelled, admits, built⟩
      exact ⟨rolls, spelled, admits.length_le, admits.terms_le, built⟩
    · rintro ⟨rolls, spelled, few, short, built⟩
      exact ⟨rolls, spelled, ⟨few, short⟩, built⟩
  · intro request read roll member
    have height := height_of_read read roll member
    obtain ⟨rolls, _, admits, rfl⟩ := read_eq_ok_iff.mp read
    refine ⟨height, fun most limit => ?_⟩
    have terms := admits.terms_le most limit roll member
    omega
  · constructor
    · rintro ⟨rejection, refused, rfl⟩
      exact told_of_refused refused
    · exact fun told => refused_of_told told journal

theorem read_exact_limited :
    let limits : Limits := { rolls := some 2, terms := some 1 }
    let told (text message : String) : Prop :=
      ∃ rejection, (read limits text #[]).1 = .error (.rejected rejection) ∧
        rejection.message = message ++ " Example: '4x3d8-5 & 2d6 ; d20'."
    told "\t\u2003" "[UNPARSEABLE_INPUT] Empty input." ∧
      told "3x d6 & d4"
        "[TOO_MANY_ROLLS] 3 rolls requested, at most 2 are allowed." ∧
      told "2x d6 & d4" ("[TOO_MANY_TERMS] A roll joins 2 terms with '&', " ++
        "at most 1 are allowed.") := by
  intro limits told
  let six : Term := .mk 1 6 0 (by decide) (by decide)
  let four : Term := .mk 1 4 0 (by decide) (by decide)
  let roll : Roll := .joined (.single six) (.single four)
  have blank : ∀ character ∈ "\t\u2003".toList, isBlank character = true :=
    List.all_eq_true.mp (by decide)
  have thrice : rolls? "3x d6 & d4" = some [roll, roll, roll] := by
    decide +kernel
  have twice : groups? "2x d6 & d4" = some [{ times := 2, roll }] := by
    decide +kernel
  have joined : roll.termCount = 2 := by decide +kernel
  have many := @Told.tooManyRolls limits "3x d6 & d4" _ 2 thrice rfl (by decide)
  have long := @Told.tooManyTerms limits "2x d6 & d4" _ 2 1 twice
    (by simp [limits, Group.rolls]) rfl (by decide)
    (by simp [joined]) (by simp [joined])
  have manyText : "[TOO_MANY_ROLLS] " ++ toString [roll, roll, roll].length ++
        " rolls requested, at most " ++ toString (2 : Int) ++ " are allowed." =
      "[TOO_MANY_ROLLS] 3 rolls requested, at most 2 are allowed." := by
    decide +kernel
  have longText : "[TOO_MANY_TERMS] A roll joins " ++ toString (2 : Nat) ++
        " terms with '&', at most " ++ toString (1 : Int) ++
        " are allowed." =
      "[TOO_MANY_TERMS] A roll joins 2 terms with '&', " ++
        "at most 1 are allowed." := by decide +kernel
  rw [manyText] at many
  rw [longText] at long
  obtain ⟨_, _, onBlank, _⟩ := read_exact limits "\t\u2003" #[]
  obtain ⟨_, _, onMany, _⟩ := read_exact limits "3x d6 & d4" #[]
  obtain ⟨_, _, onLong, _⟩ := read_exact limits "2x d6 & d4" #[]
  exact ⟨(onBlank _).mpr (.blank blank), (onMany _).mpr many,
    (onLong _).mpr long⟩

end Request

end DiceRoller
