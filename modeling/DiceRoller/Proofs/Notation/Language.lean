import DiceRoller.Notation.Reading
import DiceRoller.Proofs.Notation.Reads

/-!
# The language of dice notation

Every rule of the notation reads its form, and a text is read exactly as what
it spells.
-/

namespace DiceRoller

theorem Term.ofNat?_eq_some_iff {count sides : Nat} {bonus : Int}
    {term : Term} :
    Term.ofNat? count sides bonus = some term ↔
      term.count = count ∧ term.sides = sides ∧ term.bonus = bonus := by
  rw [ofNat?_eq_some_iff_ofInt, ofInt_eq_ok_iff, Int.ofNat_inj, Int.ofNat_inj]

namespace Notation

open Token (scan)

/-- Tokens that do not begin with a bonus. -/
def Unsigned (tokens : List Token) : Prop :=
  ∀ front found later, SignedForm front found → tokens ≠ front ++ later

theorem unsigned_nil : Unsigned [] := by
  intro front found later signed
  cases signed <;> simp

theorem unsigned_mark {mark : Char} (notPlus : mark ≠ '+')
    (notMinus : mark ≠ '-') (later : List Token) :
    Unsigned (.mark mark :: later) := by
  intro front found others signed
  cases signed <;> simp [notPlus, notMinus]

private theorem readSides_sound {count : Nat} {cursor rest : Cursor}
    {term : Term} (result : readSides count cursor = some (term, rest)) :
    ∃ sides bonus, IntegerForm sides term.sides ∧
      Optionally SignedForm 0 bonus term.bonus ∧ term.count = count ∧
        cursor.tokens = sides ++ (bonus ++ rest.tokens) := by
  unfold readSides at result
  split at result
  · simp at result
  · next value afterSides read =>
      obtain ⟨sides, sidesForm, sidesShape⟩ :=
        Cursor.readUnsigned_tries.sound read
      obtain ⟨bonus, bonusForm, bonusShape⟩ :=
        Cursor.readSigned_tries.optionally_sound 0 afterSides
      generalize afterSides.readSigned true = signed at *
      obtain ⟨found, built, same⟩ := Option.map_eq_some_iff.mp result
      cases same
      obtain ⟨counted, sided, added⟩ := Term.ofNat?_eq_some_iff.mp built
      refine ⟨sides, bonus, sided ▸ sidesForm, added ▸ bonusForm, counted, ?_⟩
      rw [sidesShape, bonusShape]

private theorem readSides_complete {term : Term}
    {sides bonus later : List Token} {cursor : Cursor}
    (sidesForm : IntegerForm sides term.sides)
    (bonusForm : Optionally SignedForm 0 bonus term.bonus)
    (shape : cursor.tokens = sides ++ (bonus ++ later))
    (ended : Unsigned later) :
    ∃ rest, readSides term.count cursor = some (term, rest) ∧
      rest.tokens = later := by
  obtain ⟨afterSides, sidesRead, remaining⟩ :=
    Cursor.readUnsigned_tries.complete sidesForm shape
  obtain ⟨found, rest, bonusRead, added, remaining⟩ :=
    Cursor.readSigned_tries.optionally_complete bonusForm remaining ended
  have built : Term.ofNat? term.count term.sides (found.getD 0) = some term :=
    Term.ofNat?_eq_some_iff.mpr ⟨rfl, rfl, added.symm⟩
  exact ⟨rest, by simp [readSides, sidesRead, bonusRead, built], remaining⟩

theorem termRule_reads : termRule.Reads TermForm Unsigned where
  sound {cursor rest term} result := by
    change readTerm cursor = some (term, rest) at result
    simp only [readTerm] at result
    split at result
    · simp at result
    · next afterLetter accepted =>
        obtain ⟨count, countForm, countShape⟩ :=
          Cursor.readUnsigned_tries.optionally_sound 1 cursor
        obtain ⟨sides, bonus, sidesForm, bonusForm, counted, remaining⟩ :=
          readSides_sound result
        rw [← counted] at countForm
        refine ⟨_, .dice countForm sidesForm bonusForm, ?_⟩
        rw [countShape, Cursor.accept_mark_sound (by decide) accepted,
          remaining]
        simp
  complete {cursor front later term} form shape ended := by
    cases form with
    | @dice count sides bonus _ countForm sidesForm bonusForm =>
        have letterFirst : ∀ other found rest, IntegerForm other found →
            .mark 'd' :: (sides ++ (bonus ++ later)) ≠ other ++ rest := by
          intro other found rest integer
          cases integer
          simp
        have countShape : cursor.tokens =
            count ++ .mark 'd' :: (sides ++ (bonus ++ later)) := by
          simpa using shape
        obtain ⟨found, afterCount, countRead, counted, remaining⟩ :=
          Cursor.readUnsigned_tries.optionally_complete countForm countShape
            letterFirst
        obtain ⟨afterLetter, accepted, remaining⟩ :=
          Cursor.accept_mark_complete remaining
        obtain ⟨rest, read, remaining⟩ :=
          readSides_complete sidesForm bonusForm remaining ended
        refine ⟨rest, ?_, remaining⟩
        change readTerm cursor = some (term, rest)
        simp [readTerm, countRead, accepted, counted, read]

/-- A chain begins with the letter of its dice, behind a count or not. -/
theorem ChainForm.opening {tokens : List Token} {roll : Roll}
    (form : ChainForm tokens roll) :
    (∃ later, tokens = .mark 'd' :: later) ∨
      ∃ count later, tokens = .number count :: .mark 'd' :: later := by
  have opening {front : List Token} {term : Term}
      (term : TermForm front term) (later : List Token) :
      (∃ rest, front ++ later = .mark 'd' :: rest) ∨
        ∃ count rest,
          front ++ later = .number count :: .mark 'd' :: rest := by
    cases term with
    | dice countForm _ _ =>
        rcases countForm.absent_or_form with ⟨rfl, _⟩ | integer
        · exact .inl ⟨_, rfl⟩
        · cases integer
          exact .inr ⟨_, _, rfl⟩
  cases form with
  | single term => simpa using opening term []
  | joined term _ => exact opening term _

theorem chainForm_iff_separated {tokens : List Token} {roll : Roll} :
    ChainForm tokens roll ↔
      ∃ terms : Term × List Term,
        SeparatedForm TermForm '&' tokens (terms.1 :: terms.2) ∧
          Roll.chain terms.1 terms.2 = roll := by
  constructor
  · intro form
    induction form with
    | @single tokens term formed => exact ⟨(term, []), .single formed, rfl⟩
    | @joined front tokens term roll formed _ induction =>
        obtain ⟨⟨second, later⟩, separated, rfl⟩ := induction
        exact ⟨(term, second :: later), .more formed separated, rfl⟩
  · rintro ⟨⟨first, later⟩, separated, rfl⟩
    generalize spelled : (first, later).1 :: (first, later).2 = terms
      at separated
    induction separated generalizing first later with
    | single formed =>
        cases spelled
        exact .single formed
    | @more front tokens term others formed separated induction =>
        cases spelled
        cases later with
        | nil => cases separated
        | cons second later => exact .joined formed (induction second later rfl)

/-- What may stand behind a chain that is read to its end. -/
def EndsChain (tokens : List Token) : Prop :=
  Unsigned tokens ∧ ∀ others, tokens ≠ .mark '&' :: others

theorem chainRule_reads : chainRule.Reads ChainForm EndsChain := by
  have visible : Token.Visible '&' := by decide
  have separated := termRule_reads.separated visible
    (unsigned_mark (by decide) (by decide))
  have mapped := separated.map fun terms => Roll.chain terms.1 terms.2
  apply mapped.congr
  intro tokens roll
  exact chainForm_iff_separated.symm

theorem timesRule_reads : timesRule.Reads TimesForm fun _ => True where
  sound {cursor rest times} result := by
    change readTimes cursor = some (times, rest) at result
    unfold readTimes at result
    split at result
    · simp at result
    · next value afterTimes read =>
        obtain ⟨digits, integer, shape⟩ := Cursor.readUnsigned_tries.sound read
        split at result
        · simp at result
        · next accepted =>
            cases result
            refine ⟨_, .times integer, ?_⟩
            rw [shape, Cursor.accept_mark_sound (by decide) accepted]
            simp
  complete {cursor front later times} form shape _ := by
    cases form with
    | @times digits _ integer =>
        rw [List.append_assoc] at shape
        obtain ⟨afterTimes, read, remaining⟩ :=
          Cursor.readUnsigned_tries.complete integer shape
        obtain ⟨rest, accepted, remaining⟩ :=
          Cursor.accept_mark_complete remaining
        refine ⟨rest, ?_, remaining⟩
        change readTimes cursor = some (times, rest)
        simp [readTimes, read, accepted]

/-- The groups of any rule that reads chains; the count of a chain is not
taken for the number of its repetitions, since no letter of those follows. -/
theorem groupRuleOf_reads {rollRule : Rule Roll}
    {follows : List Token → Prop} (reads : rollRule.Reads ChainForm follows) :
    (groupRuleOf rollRule).Reads GroupForm follows where
  sound {cursor rest group} result := by
    change readGroup rollRule cursor = some (group, rest) at result
    obtain ⟨prefixed, timesForm, timesShape⟩ :=
      timesRule_reads.attempt.optionally_sound 1 cursor
    simp only [readGroup] at result
    split at result
    · simp at result
    · next positive =>
        obtain ⟨⟨roll, after⟩, read, same⟩ := Option.map_eq_some_iff.mp result
        cases same
        obtain ⟨chain, chainForm, chainShape⟩ := reads.sound read
        refine ⟨_, .group timesForm (Nat.pos_of_ne_zero positive) chainForm, ?_⟩
        rw [timesShape, chainShape, List.append_assoc]
  complete {cursor front later group} form shape ended := by
    cases form with
    | @group prefixed chain times roll timesForm positive chainForm =>
        have untimed : ∀ other found rest, TimesForm other found →
            chain ++ later ≠ other ++ rest := by
          intro other found rest timed
          cases timed with
          | times integer =>
              cases integer
              rcases chainForm.opening with
                ⟨others, rfl⟩ | ⟨count, others, rfl⟩ <;> simp
        rw [List.append_assoc] at shape
        obtain ⟨found, start, tried, rfl, remaining⟩ :=
          timesRule_reads.attempt.optionally_complete timesForm shape untimed
        obtain ⟨rest, read, remaining⟩ :=
          reads.complete chainForm remaining ended
        refine ⟨rest, ?_, remaining⟩
        change readGroup rollRule cursor = some (_, rest)
        simp [readGroup, tried, Nat.ne_of_gt positive, read]

/-- A whole text is read exactly as a set of its tokens, by any rule for
chains that stops only where a chain may end. -/
theorem setRuleOf_reads_iff {rollRule : Rule Roll}
    (reads : rollRule.Reads ChainForm EndsChain)
    {cursor : Cursor} {groups : List Group} :
    (∃ rest, (setRuleOf rollRule).read cursor = some (groups, rest)) ↔
      SetForm cursor.tokens groups := by
  have visible : Token.Visible ';' := by decide
  have goesOn (later : List Token) : EndsChain (.mark ';' :: later) :=
    ⟨unsigned_mark (by decide) (by decide) later, by simp⟩
  have separated := (groupRuleOf_reads reads).separated visible goesOn
  constructor
  · rintro ⟨rest, result⟩
    change readWhole (groupRuleOf rollRule) cursor = some (groups, rest)
      at result
    unfold readWhole at result
    split at result
    · simp at result
    · next first later afterForms read =>
        obtain ⟨front, form, shape⟩ := separated.sound read
        split at result
        · simp at result
        · next ended =>
            cases result
            have none : afterForms.tokens = [] :=
              Cursor.atEnd_iff.mp (congrArg Prod.fst ended)
            rw [shape, none, List.append_nil]
            exact form
  · intro form
    obtain ⟨first, later, rfl⟩ := List.exists_cons_of_ne_nil form.ne_nil
    have formed : SeparatedForm GroupForm ';' cursor.tokens
        ((first, later).1 :: (first, later).2) := form
    obtain ⟨afterForms, read, remaining⟩ := separated.complete formed
      (List.append_nil _).symm ⟨⟨unsigned_nil, by simp⟩, by simp⟩
    have ended := Cursor.atEnd_iff.mpr remaining
    refine ⟨afterForms.atEnd.2, ?_⟩
    change readWhole (groupRuleOf rollRule) cursor = some (first :: later, _)
    unfold readWhole
    rw [read]
    cases atEnd : afterForms.atEnd with
    | mk exhausted rest =>
        rw [atEnd] at ended
        cases ended
        simp [atEnd]

/-- The text as it is read, in small letters. -/
def lowered (text : String) : List Char :=
  text.toList.map Char.toLower

/-- The groups that the text spells where the given rule reads their rolls. -/
def groupsBy? (rollRule : Rule Roll) (text : String) : Option (List Group) :=
  ((setRuleOf rollRule).read ⟨lowered text⟩).map Prod.fst

theorem groupsBy?_eq_some_iff_scan {rollRule : Rule Roll}
    (reads : rollRule.Reads ChainForm EndsChain) {text : String}
    {groups : List Group} :
    groupsBy? rollRule text = some groups ↔
      SetForm (scan (lowered text)) groups := by
  have whole : (∃ rest, (setRuleOf rollRule).read ⟨lowered text⟩ =
      some (groups, rest)) ↔ SetForm (scan (lowered text)) groups :=
    setRuleOf_reads_iff reads
  rw [← whole]
  simp [groupsBy?, Option.map_eq_some_iff]

theorem groups?_eq_some_iff_scan {text : String} {groups : List Group} :
    groups? text = some groups ↔ SetForm (scan (lowered text)) groups :=
  groupsBy?_eq_some_iff_scan chainRule_reads

theorem groups?_eq_some_iff_spells {text : String} {groups : List Group} :
    groups? text = some groups ↔ Spells (lowered text) groups :=
  groups?_eq_some_iff_scan.trans spells_iff_setForm_scan.symm

/-- A text is read exactly if it spells groups, as the groups that it spells;
it spells no others, and a text that spells none is not read at all. -/
theorem groups?_language (text : String) :
    (∀ groups, groups? text = some groups ↔ Spells (lowered text) groups) ∧
      (∀ first second, Spells (lowered text) first →
        Spells (lowered text) second → first = second) ∧
      (groups? text = none ↔ ∀ groups, ¬Spells (lowered text) groups) := by
  refine ⟨fun groups => groups?_eq_some_iff_spells, ?_, ?_⟩
  · intro first second firstSpelled secondSpelled
    have firstRead := groups?_eq_some_iff_spells.mpr firstSpelled
    have secondRead := groups?_eq_some_iff_spells.mpr secondSpelled
    exact Option.some.inj (firstRead.symm.trans secondRead)
  · rw [Option.eq_none_iff_forall_ne_some]
    exact forall_congr' fun groups => not_congr groups?_eq_some_iff_spells

end Notation

end DiceRoller
