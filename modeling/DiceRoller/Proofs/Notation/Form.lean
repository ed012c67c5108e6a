import DiceRoller.Notation.Grammar
import DiceRoller.Proofs.Notation.Token

/-!
# Forms of dice notation

The grammar of the notation as relations between tokens and what they spell.
Its only numbers are those that can be read, and no two numbers meet, so that
a text has no other tokens in this grammar than those it is scanned for.
-/

namespace DiceRoller.Notation

open Token (Apart Visible Written scan)

/-- A form that may be left out, and what it stands for then. -/
inductive Optionally {value : Type} (form : List Token → value → Prop)
    (default : value) : List Token → value → Prop where
  | absent : Optionally form default [] default
  | present {tokens : List Token} {spelled : value} :
      form tokens spelled → Optionally form default tokens spelled

/-- One form or more with a mark between each two of them. -/
inductive SeparatedForm {value : Type} (form : List Token → value → Prop)
    (mark : Char) : List Token → List value → Prop where
  | single {tokens : List Token} {spelled : value} :
      form tokens spelled → SeparatedForm form mark tokens [spelled]
  | more {first later : List Token} {spelled : value} {others : List value} :
      form first spelled → SeparatedForm form mark later others →
      SeparatedForm form mark (first ++ .mark mark :: later)
        (spelled :: others)

theorem Optionally.absent_or_form {value : Type}
    {form : List Token → value → Prop} {default spelled : value}
    {tokens : List Token} (optionally : Optionally form default tokens spelled) :
    (tokens = [] ∧ spelled = default) ∨ form tokens spelled := by
  cases optionally with
  | absent => exact .inl ⟨rfl, rfl⟩
  | present found => exact .inr found

theorem SeparatedForm.ne_nil {value : Type}
    {form : List Token → value → Prop} {mark : Char} {tokens : List Token}
    {values : List value} (separated : SeparatedForm form mark tokens values) :
    values ≠ [] := by
  cases separated <;> simp

theorem SeparatedForm.exists_front {value : Type}
    {form : List Token → value → Prop} {mark : Char} {tokens : List Token}
    {values : List value} (separated : SeparatedForm form mark tokens values) :
    ∃ front first later, form front first ∧ tokens = front ++ later := by
  cases separated with
  | single formed => exact ⟨tokens, _, [], formed, (List.append_nil _).symm⟩
  | more formed _ => exact ⟨_, _, _, formed, rfl⟩

inductive IntegerForm : List Token → Nat → Prop where
  | number {value : Nat} :
      value ≤ Cursor.largest → IntegerForm [.number value] value

inductive SignedForm : List Token → Int → Prop where
  | plus {digits : List Token} {value : Nat} :
      IntegerForm digits value → SignedForm (.mark '+' :: digits) value
  | minus {digits : List Token} {value : Nat} :
      IntegerForm digits value → SignedForm (.mark '-' :: digits) (-value)

/-- A term has a positive count and sides, whatever is written. -/
inductive TermForm : List Token → Term → Prop where
  | dice {count sides bonus : List Token} {term : Term} :
      Optionally IntegerForm 1 count term.count →
      IntegerForm sides term.sides →
      Optionally SignedForm 0 bonus term.bonus →
      TermForm (count ++ .mark 'd' :: (sides ++ bonus)) term

inductive ChainForm : List Token → Roll → Prop where
  | single {tokens : List Token} {term : Term} :
      TermForm tokens term → ChainForm tokens (.single term)
  | joined {first later : List Token} {term : Term} {roll : Roll} :
      TermForm first term → ChainForm later roll →
      ChainForm (first ++ .mark '&' :: later) (.joined (.single term) roll)

inductive TimesForm : List Token → Nat → Prop where
  | times {digits : List Token} {value : Nat} :
      IntegerForm digits value → TimesForm (digits ++ [.mark 'x']) value

inductive GroupForm : List Token → Group → Prop where
  | group {prefixed chain : List Token} {times : Nat} {roll : Roll} :
      Optionally TimesForm 1 prefixed times → 0 < times →
      ChainForm chain roll → GroupForm (prefixed ++ chain) { times, roll }

def SetForm : List Token → List Group → Prop :=
  SeparatedForm GroupForm ';'

/-- A text that spells groups: it is written with tokens of a set. -/
def Spells (text : List Char) (groups : List Group) : Prop :=
  ∃ tokens, Written text tokens ∧ SetForm tokens groups

/-- Only marks are between two numbers, and each mark can be told from blanks
and digits. -/
inductive Legible (allowed : Nat → Prop) : List Token → Prop where
  | nil : Legible allowed []
  | number {value : Nat} : allowed value → Legible allowed [.number value]
  | mark {character : Char} {later : List Token} :
      Visible character → Legible allowed later →
      Legible allowed (.mark character :: later)
  | numberMark {value : Nat} {character : Char} {later : List Token} :
      allowed value → Legible allowed (.mark character :: later) →
      Legible allowed (.number value :: .mark character :: later)

namespace Legible

variable {allowed : Nat → Prop}

theorem append_mark {first later : List Token} {character : Char}
    (visible : Visible character) (firstLegible : Legible allowed first)
    (laterLegible : Legible allowed later) :
    Legible allowed (first ++ .mark character :: later) := by
  induction firstLegible with
  | nil => exact .mark visible laterLegible
  | number able => exact .numberMark able (.mark visible laterLegible)
  | mark firstVisible _ induction => exact .mark firstVisible induction
  | numberMark able _ induction => exact .numberMark able induction

theorem allowed_of_mem {tokens : List Token} {value : Nat}
    (legible : Legible allowed tokens) (member : .number value ∈ tokens) :
    allowed value := by
  induction legible with
  | nil => simp at member
  | number able =>
      cases List.mem_singleton.mp member
      exact able
  | mark _ _ induction => exact induction (by simpa using member)
  | numberMark able _ induction =>
      rcases List.mem_cons.mp member with same | later
      · cases same
        exact able
      · exact induction later

private theorem apart_of_mark {text : List Char} {character : Char}
    {later : List Token} (visible : Visible character)
    (written : Written text (.mark character :: later)) : Apart text := by
  cases written with
  | @mark blanks rest _ _ blank _ =>
      cases blanks with
      | nil => exact Token.apart_cons visible.2
      | cons first blanks =>
          exact Token.apart_cons
            (Token.isDigit_of_isBlank (blank first (by simp)))

private theorem apart_of_nil {text : List Char}
    (written : Written text []) : Apart text := by
  cases written with
  | done blank =>
      intro character first
      exact Token.isDigit_of_isBlank
        (blank character (List.mem_of_head? first))

/-- A text is written with legible tokens in no other way than it is scanned. -/
theorem scan_eq {tokens : List Token} (legible : Legible allowed tokens)
    {text : List Char} (written : Written text tokens) :
    scan text = tokens := by
  induction legible generalizing text with
  | nil =>
      cases written with
      | done blank => simpa using Token.scan_blanks blank []
  | number able =>
      cases written with
      | @number blanks digits rest _ blank run end_ =>
          have ended : scan rest = [] := by
            cases end_ with
            | done blank => simpa using Token.scan_blanks blank []
          rw [List.append_assoc, Token.scan_blanks blank,
            Token.scan_digits run (apart_of_nil end_), ended]
  | mark visible _ induction =>
      cases written with
      | mark _ blank rest =>
          rw [Token.scan_blanks blank, Token.scan_mark visible,
            induction rest]
  | numberMark able marked induction =>
      cases written with
      | @number blanks digits text _ blank run rest =>
          have apart : Apart text := by
            cases marked with
            | mark visible _ => exact apart_of_mark visible rest
          rw [List.append_assoc, Token.scan_blanks blank,
            Token.scan_digits run apart, induction rest]

end Legible

abbrev Readable : List Token → Prop :=
  Legible (· ≤ Cursor.largest)

theorem IntegerForm.readable {tokens : List Token} {value : Nat}
    (form : IntegerForm tokens value) : Readable tokens := by
  cases form with
  | number bounded => exact .number bounded

theorem SignedForm.readable {tokens : List Token} {value : Int}
    (form : SignedForm tokens value) : Readable tokens := by
  cases form with
  | plus digits => exact .mark (by decide) digits.readable
  | minus digits => exact .mark (by decide) digits.readable

private theorem IntegerForm.readable_append {digits signed : List Token}
    {value : Nat} {bonus : Int} (integer : IntegerForm digits value)
    (form : SignedForm signed bonus) : Readable (digits ++ signed) := by
  have signedReadable := form.readable
  cases integer with
  | number bounded =>
      cases form with
      | plus _ => exact .numberMark bounded signedReadable
      | minus _ => exact .numberMark bounded signedReadable

theorem TermForm.readable {tokens : List Token} {term : Term}
    (form : TermForm tokens term) : Readable tokens := by
  cases form with
  | @dice count sides bonus _ countForm sidesForm bonusForm =>
      have countReadable : Readable count := by
        rcases countForm.absent_or_form with ⟨rfl, _⟩ | integer
        · exact .nil
        · exact integer.readable
      have sidesReadable : Readable (sides ++ bonus) := by
        rcases bonusForm.absent_or_form with ⟨rfl, _⟩ | signed
        · simpa using sidesForm.readable
        · exact sidesForm.readable_append signed
      exact countReadable.append_mark (by decide) sidesReadable

theorem ChainForm.readable {tokens : List Token} {roll : Roll}
    (form : ChainForm tokens roll) : Readable tokens := by
  induction form with
  | single term => exact term.readable
  | joined term _ induction =>
      exact term.readable.append_mark (by decide) induction

theorem GroupForm.readable {tokens : List Token} {group : Group}
    (form : GroupForm tokens group) : Readable tokens := by
  cases form with
  | group timesForm _ chain =>
      cases timesForm with
      | absent => exact chain.readable
      | present times =>
          cases times with
          | times digits =>
              have visible : Visible 'x' := by decide
              simpa using digits.readable.append_mark visible chain.readable

theorem SeparatedForm.readable {value : Type}
    {form : List Token → value → Prop} {mark : Char} {tokens : List Token}
    {values : List value} (visible : Visible mark)
    (each : ∀ tokens spelled, form tokens spelled → Readable tokens)
    (separated : SeparatedForm form mark tokens values) :
    Readable tokens := by
  induction separated with
  | single first => exact each _ _ first
  | more first _ induction =>
      exact (each _ _ first).append_mark visible induction

theorem SetForm.readable {tokens : List Token} {groups : List Group}
    (form : SetForm tokens groups) : Readable tokens :=
  SeparatedForm.readable (by decide) (fun _ _ group => group.readable) form

/-- What a text spells shows in its scanned tokens. -/
theorem spells_iff_setForm_scan {text : List Char} {groups : List Group} :
    Spells text groups ↔ SetForm (scan text) groups := by
  constructor
  · rintro ⟨tokens, written, form⟩
    rwa [form.readable.scan_eq written]
  · intro form
    exact ⟨scan text, Token.written_scan text, form⟩

end DiceRoller.Notation
