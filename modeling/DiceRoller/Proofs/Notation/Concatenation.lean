import DiceRoller.Proofs.Notation.Lowered

/-!
# Texts joined by a semicolon

A semicolon stands between groups and nowhere inside one.  A text that is
divided at a semicolon is therefore read exactly as its two parts are, and not
at all if one of the parts is not.
-/

namespace DiceRoller.Notation

open Token (scan)

theorem Optionally.not_mem {value : Type} {form : List Token → value → Prop}
    {default spelled : value} {tokens : List Token} {token : Token}
    (optionally : Optionally form default tokens spelled)
    (absent : ∀ {tokens spelled}, form tokens spelled → token ∉ tokens) :
    token ∉ tokens := by
  cases optionally with
  | absent => exact List.not_mem_nil
  | present formed => exact absent formed

theorem IntegerForm.semicolon_not_mem {tokens : List Token} {value : Nat}
    (integer : IntegerForm tokens value) : .mark ';' ∉ tokens := by
  cases integer
  simp

theorem SignedForm.semicolon_not_mem {tokens : List Token} {value : Int}
    (signed : SignedForm tokens value) : .mark ';' ∉ tokens := by
  cases signed with
  | plus digits => simpa using digits.semicolon_not_mem
  | minus digits => simpa using digits.semicolon_not_mem

theorem TermForm.semicolon_not_mem {tokens : List Token} {term : Term}
    (form : TermForm tokens term) : .mark ';' ∉ tokens := by
  cases form with
  | dice count sides bonus =>
      have unmarkedCount := count.not_mem IntegerForm.semicolon_not_mem
      have unmarkedBonus := bonus.not_mem SignedForm.semicolon_not_mem
      simp [unmarkedCount, sides.semicolon_not_mem, unmarkedBonus]

theorem ChainForm.semicolon_not_mem {tokens : List Token} {roll : Roll}
    (form : ChainForm tokens roll) : .mark ';' ∉ tokens := by
  induction form with
  | single term => exact term.semicolon_not_mem
  | joined term _ induction => simp [term.semicolon_not_mem, induction]

theorem GroupForm.semicolon_not_mem {tokens : List Token} {group : Group}
    (form : GroupForm tokens group) : .mark ';' ∉ tokens := by
  have untimed {tokens : List Token} {times : Nat}
      (timed : TimesForm tokens times) : .mark ';' ∉ tokens := by
    cases timed with
    | times digits => simp [digits.semicolon_not_mem]
  cases form with
  | group times _ chain =>
      simp [times.not_mem untimed, chain.semicolon_not_mem]

/-- The first of several marks is behind everything without that mark. -/
theorem eq_or_exists_of_append_mark {mark : Char}
    {front rest first later : List Token} (unmarked : .mark mark ∉ front)
    (shape : front ++ .mark mark :: rest = first ++ .mark mark :: later) :
    (front = first ∧ rest = later) ∨
      ∃ middle, first = front ++ .mark mark :: middle ∧
        rest = middle ++ .mark mark :: later := by
  induction front generalizing first with
  | nil =>
      cases first with
      | nil =>
          cases shape
          exact .inl ⟨rfl, rfl⟩
      | cons token first =>
          cases shape
          exact .inr ⟨first, rfl, rfl⟩
  | cons token front induction =>
      have others : .mark mark ∉ front :=
        fun member => unmarked (List.mem_cons_of_mem token member)
      cases first with
      | nil =>
          cases shape
          exact absurd List.mem_cons_self unmarked
      | cons other first =>
          obtain ⟨rfl, tail⟩ := List.cons.inj shape
          rcases induction others tail with ⟨rfl, rfl⟩ | ⟨middle, rfl, rfl⟩
          · exact .inl ⟨rfl, rfl⟩
          · exact .inr ⟨middle, rfl, rfl⟩

section Separated

variable {value : Type} {form : List Token → value → Prop} {mark : Char}
  {first later : List Token} {values : List value}

theorem SeparatedForm.append {firstValues laterValues : List value}
    (firstForm : SeparatedForm form mark first firstValues)
    (laterForm : SeparatedForm form mark later laterValues) :
    SeparatedForm form mark (first ++ .mark mark :: later)
      (firstValues ++ laterValues) := by
  induction firstForm with
  | single formed => exact .more formed laterForm
  | more formed _ induction =>
      rw [List.append_assoc]
      exact .more formed induction

/-- Forms in which the mark does not occur are divided at every mark. -/
theorem SeparatedForm.exists_append
    (unmarked : ∀ {tokens spelled}, form tokens spelled →
      .mark mark ∉ tokens)
    (separated :
      SeparatedForm form mark (first ++ .mark mark :: later) values) :
    ∃ firstValues laterValues, values = firstValues ++ laterValues ∧
      SeparatedForm form mark first firstValues ∧
      SeparatedForm form mark later laterValues := by
  generalize shape : first ++ .mark mark :: later = tokens at separated
  induction separated generalizing first with
  | single formed =>
      refine absurd ?_ (unmarked formed)
      rw [← shape]
      simp
  | @more front rest spelled others formed separated induction =>
      rcases eq_or_exists_of_append_mark (unmarked formed) shape.symm with
        ⟨rfl, rfl⟩ | ⟨middle, rfl, within⟩
      · exact ⟨[spelled], others, rfl, .single formed, separated⟩
      · obtain ⟨firstValues, laterValues, rfl, firstForm, laterForm⟩ :=
          induction within.symm
        exact ⟨spelled :: firstValues, laterValues, rfl,
          .more formed firstForm, laterForm⟩

end Separated

theorem setForm_append_iff {first later : List Token} {groups : List Group} :
    SetForm (first ++ .mark ';' :: later) groups ↔
      ∃ firstGroups laterGroups, groups = firstGroups ++ laterGroups ∧
        SetForm first firstGroups ∧ SetForm later laterGroups := by
  constructor
  · exact SeparatedForm.exists_append GroupForm.semicolon_not_mem
  · rintro ⟨firstGroups, laterGroups, rfl, firstForm, laterForm⟩
    exact SeparatedForm.append firstForm laterForm

theorem scan_lowered_semicolon (first later : String) :
    scan (lowered (first ++ ";" ++ later)) =
      scan (lowered first) ++ .mark ';' :: scan (lowered later) := by
  have visible : Token.Visible ';' := by decide
  have semicolon : lowered ";" = [';'] := by decide
  rw [lowered_append, lowered_append, semicolon, List.append_assoc,
    List.singleton_append, Token.scan_append _ (Token.apart_cons visible.2),
    Token.scan_mark visible]

/-- A text divided at a semicolon is read as its parts, one behind the other. -/
theorem groups?_append_semicolon (first later : String) :
    groups? (first ++ ";" ++ later) =
      (groups? first).bind fun firstGroups =>
        (groups? later).map fun laterGroups => firstGroups ++ laterGroups := by
  apply Option.ext
  intro groups
  rw [groups?_eq_some_iff_scan, scan_lowered_semicolon, setForm_append_iff]
  simp only [Option.bind_eq_some_iff, Option.map_eq_some_iff,
    groups?_eq_some_iff_scan]
  constructor
  · rintro ⟨firstGroups, laterGroups, rfl, firstForm, laterForm⟩
    exact ⟨firstGroups, firstForm, laterGroups, laterForm, rfl⟩
  · rintro ⟨firstGroups, firstForm, laterGroups, laterForm, rfl⟩
    exact ⟨firstGroups, laterGroups, rfl, firstForm, laterForm⟩

theorem rolls?_append_semicolon (first later : String) :
    rolls? (first ++ ";" ++ later) =
      (rolls? first).bind fun firstRolls =>
        (rolls? later).map fun laterRolls => firstRolls ++ laterRolls := by
  unfold rolls?
  rw [groups?_append_semicolon]
  cases groups? first with
  | none => rfl
  | some firstGroups =>
      cases groups? later with
      | none => rfl
      | some laterGroups => simp

end DiceRoller.Notation
