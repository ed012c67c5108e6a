import DiceRoller.Proofs.Cursor.Extent
import DiceRoller.Proofs.Notation.Language

/-!
# Rules take their forms as a whole

A rule leaves a text as it is or takes a part off its front, and this part
alone makes it hit in the same way and leaves nothing.
-/

namespace DiceRoller

open Text (isBlank)
open Token (Apart Blanks Numeral SignFree)

namespace Rule

variable {form other : Type}

theorem attempt_eq_some_iff {rule : Rule form} {cursor rest : Cursor}
    {found : form} :
    rule.attempt cursor = (some found, rest) ↔
      rule.read cursor = some (found, rest) := by
  unfold attempt
  split
  · next missed => simp [missed]
  · next hit => simp [hit]

theorem attempt_eq_none_iff {rule : Rule form} {cursor rest : Cursor} :
    rule.attempt cursor = (none, rest) ↔
      rule.read cursor = none ∧ rest = cursor := by
  unfold attempt
  split
  · next missed => simp [missed, eq_comm]
  · next hit => simp [hit]

/-- A hit does not depend on what stands behind the form, as long as no sign
does. -/
def Local (rule : Rule form) : Prop :=
  ∀ found, Cursor.Local rule.attempt SignFree (some found)

theorem Local.map {rule : Rule form} (here : rule.Local)
    (function : form → other) : (rule.map function).Local := by
  intro image cursor rest hit
  obtain ⟨⟨found, after⟩, read, equality⟩ :=
    Option.map_eq_some_iff.mp (attempt_eq_some_iff.mp hit)
  cases equality
  obtain ⟨front, shape, again⟩ := here found (attempt_eq_some_iff.mpr read)
  refine ⟨front, shape, fun part begins free => ?_⟩
  have repeated := attempt_eq_some_iff.mp (again part begins free)
  exact attempt_eq_some_iff.mpr (by simp [Rule.map, repeated])

private theorem readSeparated_local {rule : Rule form} (here : rule.Local)
    {mark : Char} (visible : isBlank mark = false)
    (noSign : mark ≠ '+' ∧ mark ≠ '-') {cursor rest : Cursor}
    {found : form × List form}
    (hit : rule.readSeparated mark cursor = some (found, rest)) :
    ∃ front, cursor.remaining = front ++ rest.remaining ∧
      ∀ part, part <+: rest.remaining → SignFree part →
        rule.readSeparated mark ⟨front ++ part⟩ = some (found, ⟨part⟩) := by
  fun_induction readSeparated rule mark cursor generalizing found with
  | case1 => simp at hit
  | case2 cursor first afterFirst read last unmarked =>
      cases hit
      obtain ⟨front, shape, again⟩ := here first (attempt_eq_some_iff.mpr read)
      obtain ⟨blanks, blank, after, unmarkedAgain⟩ :=
        Cursor.accept_mark_missed unmarked
      refine ⟨front ++ blanks, by simp [shape, after],
        fun part begins free => ?_⟩
      have longer : blanks ++ part <+: afterFirst.remaining := by
        rw [after]
        exact (List.prefix_append_right_inj blanks).mpr begins
      have repeated := attempt_eq_some_iff.mp
        (again _ longer (Token.signFree_of_blanks blank free))
      rw [List.append_assoc]
      exact readSeparated_last repeated (unmarkedAgain part begins)
  | case3 => simp at hit
  | case4 cursor first afterFirst read afterMark marked second later last
      continued induction =>
      cases hit
      obtain ⟨front, shape, again⟩ := here first (attempt_eq_some_iff.mpr read)
      obtain ⟨blanks, blank, after⟩ :=
        (Cursor.accept_mark_eq_true_iff visible).mp marked
      obtain ⟨others, behind, continuedAgain⟩ := induction continued
      refine ⟨front ++ (blanks ++ mark :: others),
        by simp [shape, after, behind], fun part begins free => ?_⟩
      have free : SignFree (blanks ++ mark :: (others ++ part)) :=
        Token.signFree_of_blanks blank (by simpa [SignFree] using noSign)
      have longer : blanks ++ mark :: (others ++ part) <+:
          afterFirst.remaining := by
        rw [after, behind]
        simpa using begins
      have repeated := attempt_eq_some_iff.mp (again _ longer free)
      have markedAgain : Cursor.accept [mark]
          ⟨blanks ++ mark :: (others ++ part)⟩ = (true, ⟨others ++ part⟩) :=
        (Cursor.accept_mark_eq_true_iff visible).mpr ⟨blanks, blank, rfl⟩
      simp only [List.append_assoc, List.cons_append]
      exact readSeparated_more repeated markedAgain
        (continuedAgain part begins ‹_›)

theorem Local.separated {rule : Rule form} (here : rule.Local) {mark : Char}
    (visible : isBlank mark = false) (noSign : mark ≠ '+' ∧ mark ≠ '-') :
    (rule.separated mark).Local := by
  intro found cursor rest hit
  obtain ⟨front, shape, again⟩ := readSeparated_local here visible noSign
    (attempt_eq_some_iff.mp hit)
  exact ⟨front, shape, fun part begins free =>
    attempt_eq_some_iff.mpr (again part begins free)⟩

/-- On a miss the rule leaves the text as it is.  On a hit it takes a part off
the front of the text, and on this part alone it hits in the same way and
leaves nothing. -/
structure Commits (rule : Rule form) : Prop where
  missed : ∀ {cursor rest : Cursor},
    rule.attempt cursor = (none, rest) → rest = cursor
  hit : ∀ {cursor rest : Cursor} {found : form},
    rule.attempt cursor = (some found, rest) →
      rest.remaining.length < cursor.remaining.length ∧
        ∃ front, front ≠ [] ∧ cursor.remaining = front ++ rest.remaining ∧
          rule.attempt ⟨front⟩ = (some found, ⟨[]⟩)

theorem Local.commits {rule : Rule form} (here : rule.Local) :
    rule.Commits where
  missed missed := (attempt_eq_none_iff.mp missed).2
  hit {cursor rest found} hit := by
    have shorter := rule.shorter (attempt_eq_some_iff.mp hit)
    obtain ⟨front, shape, again⟩ := here found hit
    refine ⟨shorter, front, ?_, shape, ?_⟩
    · rintro rfl
      simp [shape] at shorter
    · simpa using again [] List.nil_prefix (by simp [SignFree])

end Rule

namespace Notation

open Token (SignFree)

theorem readTerm_eq_some_iff {cursor rest : Cursor} {term : Term} :
    readTerm cursor = some (term, rest) ↔
      ∃ count afterCount afterLetter sides afterSides bonus,
        cursor.readUnsigned = (count, afterCount) ∧
        afterCount.accept ['d'] = (true, afterLetter) ∧
        afterLetter.readUnsigned = (some sides, afterSides) ∧
        afterSides.readSigned true = (bonus, rest) ∧
        Term.ofNat? (count.getD 1) sides (bonus.getD 0) = some term := by
  constructor
  · intro hit
    simp only [readTerm] at hit
    split at hit
    · simp at hit
    · next afterLetter accepted =>
        simp only [readSides] at hit
        split at hit
        · simp at hit
        · next sides afterSides sidesRead =>
            obtain ⟨_, built, same⟩ := Option.map_eq_some_iff.mp hit
            cases same
            exact ⟨_, _, afterLetter, sides, afterSides, _, rfl, accepted,
              sidesRead, rfl, built⟩
  · rintro ⟨count, afterCount, afterLetter, sides, afterSides, bonus,
      countRead, accepted, sidesRead, bonusRead, built⟩
    simp [readTerm, readSides, countRead, accepted, sidesRead, bonusRead, built]

theorem termRule_local : termRule.Local := by
  intro term cursor rest hit
  obtain ⟨count, afterCount, afterLetter, sides, afterSides, bonus,
    countRead, accepted, sidesRead, bonusRead, built⟩ :=
    readTerm_eq_some_iff.mp (Rule.attempt_eq_some_iff.mp hit)
  -- The count ends where the letter stands, so nothing of it was cut off.
  have apart : Apart afterCount.remaining := by
    obtain ⟨blanks, blank, shape⟩ :=
      (Cursor.accept_mark_eq_true_iff (by decide)).mp accepted
    rw [shape]
    exact Token.apart_of_blanks blank (Token.apart_cons (by decide))
  obtain ⟨opening, openingShape, openingAgain⟩ :=
    (Cursor.readUnsigned_local count).both
      (Cursor.accept_local (by decide) true) countRead accepted
      fun part begins _ => Token.forall_head_of_prefix begins apart
  obtain ⟨ending, endingShape, endingAgain⟩ :=
    (Cursor.readUnsigned_local (some sides)).both
      (Cursor.readSigned_local bonus) sidesRead bonusRead
      fun part begins missing => by simp at missing
  refine ⟨opening ++ ending, by simp [openingShape, endingShape], ?_⟩
  intro part begins free
  have longer : ending ++ part <+: afterLetter.remaining := by
    rw [endingShape]
    exact (List.prefix_append_right_inj ending).mpr begins
  obtain ⟨betweenLetter, countAgain, acceptedAgain⟩ :=
    openingAgain (ending ++ part) longer trivial
  obtain ⟨betweenBonus, sidesAgain, bonusAgain⟩ := endingAgain part begins free
  rw [List.append_assoc]
  exact Rule.attempt_eq_some_iff.mpr (readTerm_eq_some_iff.mpr
    ⟨count, betweenLetter, _, sides, betweenBonus, bonus, countAgain,
      acceptedAgain, sidesAgain, bonusAgain, built⟩)

theorem chainRule_local : chainRule.Local :=
  (termRule_local.separated (by decide) (by decide)).map _

theorem readTimes_eq_some_iff {cursor rest : Cursor} {times : Nat} :
    readTimes cursor = some (times, rest) ↔
      ∃ blanks digits between, Blanks blanks ∧ Numeral digits times ∧
        Blanks between ∧ cursor.remaining =
          blanks ++ (digits ++ (between ++ 'x' :: rest.remaining)) := by
  constructor
  · intro hit
    simp only [readTimes] at hit
    split at hit
    · simp at hit
    · next value afterTimes read =>
        split at hit
        · simp at hit
        · next accepted =>
            cases hit
            obtain ⟨blanks, digits, blank, numeral, _, shape⟩ :=
              Cursor.readUnsigned_eq_some_iff.mp read
            obtain ⟨between, betweenBlank, after⟩ :=
              (Cursor.accept_mark_eq_true_iff (by decide)).mp accepted
            exact ⟨blanks, digits, between, blank, numeral, betweenBlank,
              by rw [shape, after]⟩
  · rintro ⟨blanks, digits, between, blank, numeral, betweenBlank, shape⟩
    have apart : Apart (between ++ 'x' :: rest.remaining) :=
      Token.apart_of_blanks betweenBlank (Token.apart_cons (by decide))
    have read : cursor.readUnsigned =
        (some times, ⟨between ++ 'x' :: rest.remaining⟩) :=
      Cursor.readUnsigned_eq_some_iff.mpr
        ⟨blanks, digits, blank, numeral, apart, shape⟩
    have accepted : Cursor.accept ['x'] ⟨between ++ 'x' :: rest.remaining⟩ =
        (true, rest) :=
      (Cursor.accept_mark_eq_true_iff (by decide)).mpr
        ⟨between, betweenBlank, rfl⟩
    simp [readTimes, read, accepted]

/-- The letter ends the number, so a miss does not depend on what stands
behind either. -/
theorem timesRule_local (found : Option Nat) :
    Cursor.Local timesRule.attempt (fun _ => True) found := by
  intro cursor rest read
  cases found with
  | some times =>
      obtain ⟨blanks, digits, between, blank, numeral, betweenBlank, shape⟩ :=
        readTimes_eq_some_iff.mp (Rule.attempt_eq_some_iff.mp read)
      refine ⟨blanks ++ (digits ++ (between ++ ['x'])), by simp [shape], ?_⟩
      intro part _ _
      exact Rule.attempt_eq_some_iff.mpr (readTimes_eq_some_iff.mpr
        ⟨blanks, digits, between, blank, numeral, betweenBlank, by simp⟩)
  | none =>
      obtain ⟨missed, same⟩ := Rule.attempt_eq_none_iff.mp read
      subst rest
      refine ⟨[], rfl, fun part begins _ => ?_⟩
      refine Rule.attempt_eq_none_iff.mpr ⟨?_, rfl⟩
      obtain ⟨more, longer⟩ := begins
      refine Option.eq_none_iff_forall_ne_some.mpr fun ⟨times, rest⟩ hit => ?_
      obtain ⟨blanks, digits, between, blank, numeral, betweenBlank, shape⟩ :=
        readTimes_eq_some_iff.mp hit
      have partShape : part =
          blanks ++ (digits ++ (between ++ 'x' :: rest.remaining)) := shape
      have hitThere : timesRule.read cursor =
          some (times, ⟨rest.remaining ++ more⟩) :=
        readTimes_eq_some_iff.mpr ⟨blanks, digits, between, blank, numeral,
          betweenBlank, by simp [← longer, partShape]⟩
      cases missed.symm.trans hitThere

theorem readGroup_eq_some_iff {rollRule : Rule Roll} {cursor rest : Cursor}
    {group : Group} :
    readGroup rollRule cursor = some (group, rest) ↔
      ∃ repetition start, timesRule.attempt cursor = (repetition, start) ∧
        repetition.getD 1 = group.times ∧ group.times ≠ 0 ∧
        rollRule.attempt start = (some group.roll, rest) := by
  simp only [readGroup, Rule.attempt_eq_some_iff]
  constructor
  · intro hit
    split at hit
    · simp at hit
    · next positive =>
        obtain ⟨⟨roll, after⟩, read, same⟩ := Option.map_eq_some_iff.mp hit
        cases same
        exact ⟨_, _, rfl, rfl, positive, read⟩
  · rintro ⟨repetition, start, tried, times, positive, read⟩
    simp [tried, times, positive, read]

theorem groupRule_local : groupRule.Local := by
  intro group cursor rest hit
  obtain ⟨repetition, start, tried, times, positive, read⟩ :=
    readGroup_eq_some_iff.mp (Rule.attempt_eq_some_iff.mp hit)
  obtain ⟨front, shape, again⟩ :=
    (timesRule_local repetition).both (chainRule_local group.roll) tried read
      fun _ _ => trivial
  refine ⟨front, shape, fun part begins free => ?_⟩
  obtain ⟨between, triedAgain, readAgain⟩ := again part begins free
  exact Rule.attempt_eq_some_iff.mpr (readGroup_eq_some_iff.mpr
    ⟨repetition, between, triedAgain, times, positive, readAgain⟩)

/-- A set is read to the end of the text, so the part is the whole text. -/
theorem setRule_rest {cursor rest : Cursor} {groups : List Group}
    (hit : setRule.read cursor = some (groups, rest)) :
    rest.remaining = [] := by
  change readWhole groupRule cursor = some (groups, rest) at hit
  unfold readWhole at hit
  split at hit
  · simp at hit
  · split at hit
    · simp at hit
    · next ended =>
        cases hit
        simp only [Cursor.atEnd, Prod.mk.injEq, List.isEmpty_iff] at ended
        exact ended.2 ▸ ended.1

theorem setRule_commits : setRule.Commits where
  missed missed := (Rule.attempt_eq_none_iff.mp missed).2
  hit {cursor rest groups} hit := by
    have read := Rule.attempt_eq_some_iff.mp hit
    have nothing : rest = ⟨[]⟩ := congrArg Cursor.mk (setRule_rest read)
    subst nothing
    refine ⟨setRule.shorter read, cursor.remaining, ?_, by simp, hit⟩
    exact List.ne_nil_of_length_pos (setRule.shorter read)

/-- A rule that misses leaves the text as it was, and one that hits takes
exactly its form off the text: read alone, the part that it takes gives the
same form and is used up. -/
theorem rules_commit :
    termRule.Commits ∧ chainRule.Commits ∧ timesRule.Commits ∧
      groupRule.Commits ∧ setRule.Commits :=
  have timesLocal : timesRule.Local := fun times =>
    (timesRule_local (some times)).weaken fun _ _ => trivial
  ⟨termRule_local.commits, chainRule_local.commits, timesLocal.commits,
    groupRule_local.commits, setRule_commits⟩

/-- Each rule gives its form again on the part that it takes off the text; no
repetitions at all are a form of the times rule.  Where the term rule misses it
takes no blank. -/
theorem rules_commit_zeroTimes :
    let takes (form : Type) (rule : Rule form) (found : form)
        (text rest : String) : Prop :=
      ∃ front, front ≠ [] ∧ text.toList = front ++ rest.toList ∧
        rule.attempt ⟨front⟩ = (some found, ⟨[]⟩)
    let six : Term := .mk 1 6 0 (by decide) (by decide)
    let four : Term := .mk 1 4 0 (by decide) (by decide)
    let both : Roll := .joined (.single six) (.single four)
    takes Term termRule six " d6 & d4 ; d6" "& d4 ; d6" ∧
      takes Roll chainRule both " d6 & d4 ; d6" "; d6" ∧
      takes Nat timesRule 0 " 0x d6" " d6" ∧
      takes Group groupRule { times := 2, roll := both }
        " 2x d6 & d4 ; d6" "; d6" ∧
      takes (List Group) setRule
        [{ times := 2, roll := both }, { times := 1, roll := .single six }]
        " 2x d6 & d4 ; d6" "" ∧
      termRule.attempt ⟨" 0x d6".toList⟩ = (none, ⟨" 0x d6".toList⟩) := by
  intro takes six four both
  obtain ⟨term, chain, times, group, set⟩ := rules_commit
  have termHit : termRule.attempt ⟨" d6 & d4 ; d6".toList⟩ =
      (some six, ⟨"& d4 ; d6".toList⟩) := by decide +kernel
  have chainHit : chainRule.attempt ⟨" d6 & d4 ; d6".toList⟩ =
      (some both, ⟨"; d6".toList⟩) := by decide +kernel
  have timesHit : timesRule.attempt ⟨" 0x d6".toList⟩ =
      (some 0, ⟨" d6".toList⟩) := by decide +kernel
  have groupHit : groupRule.attempt ⟨" 2x d6 & d4 ; d6".toList⟩ =
      (some { times := 2, roll := both }, ⟨"; d6".toList⟩) := by
    decide +kernel
  have setHit : setRule.attempt ⟨" 2x d6 & d4 ; d6".toList⟩ =
      (some [{ times := 2, roll := both }, { times := 1, roll := .single six }],
        ⟨"".toList⟩) := by decide +kernel
  have missed : (termRule.attempt ⟨" 0x d6".toList⟩).1 = none := by
    decide +kernel
  have kept := term.missed (Prod.ext missed rfl)
  exact ⟨(term.hit termHit).2, (chain.hit chainHit).2, (times.hit timesHit).2,
    (group.hit groupHit).2, (set.hit setHit).2, Prod.ext missed kept⟩

end Notation

end DiceRoller
