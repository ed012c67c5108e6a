import DiceRoller.Proofs.Notation.Language

/-!
# Chains that may be cut short

The grammar makes everything behind the first term of a chain optional.  A
rule that takes this literally gives up a mark that no chain follows and reads
the terms in front of it.  It differs from the rule that insists on a term
behind every mark, but only where a mark is left over, and a text with a mark
left over is no set.
-/

namespace DiceRoller.Notation

/-- Read a term and, if there is one, the chain behind a mark.  What is read
of a chain that turns out to be none is given back. -/
def readBacktracking (cursor : Cursor) : Option (Roll × Cursor) :=
  match _ : termRule.read cursor with
  | none => none
  | some (term, afterTerm) =>
      match _ : afterTerm.accept ['&'] with
      | (false, _) => some (.single term, afterTerm)
      | (true, afterMark) =>
          match readBacktracking afterMark with
          | none => some (.single term, afterTerm)
          | some (roll, rest) => some (.joined (.single term) roll, rest)
termination_by cursor.remaining.length
decreasing_by
  exact Nat.lt_trans (Cursor.accept_length_lt (List.cons_ne_nil '&' []) ‹_›)
    (termRule.shorter ‹_›)

private theorem readBacktracking_length_lt {cursor rest : Cursor} {roll : Roll}
    (hit : readBacktracking cursor = some (roll, rest)) :
    rest.remaining.length < cursor.remaining.length := by
  fun_induction readBacktracking cursor generalizing roll with
  | case1 => simp at hit
  | case2 cursor term afterTerm found last unmarked =>
      cases hit
      exact termRule.shorter found
  | case3 cursor term afterTerm found afterMark marked missed induction =>
      cases hit
      exact termRule.shorter found
  | case4 cursor term afterTerm found afterMark marked roll last continued
      induction =>
      cases hit
      exact Nat.lt_trans (induction continued)
        (Nat.lt_trans (Cursor.accept_length_lt (by simp) marked)
          (termRule.shorter found))

def backtrackingRule : Rule Roll where
  read := readBacktracking
  shorter := readBacktracking_length_lt

/-- The repetition of terms, whose rolls are joined afterwards from the right,
is the recursion that joins a term to the chain behind it. -/
theorem readChain_eq (cursor : Cursor) :
    chainRule.read cursor =
      match termRule.read cursor with
      | none => none
      | some (term, afterTerm) =>
          match afterTerm.accept ['&'] with
          | (false, rest) => some (.single term, rest)
          | (true, afterMark) =>
              (chainRule.read afterMark).map fun (roll, rest) =>
                (.joined (.single term) roll, rest) := by
  simp only [chainRule, Rule.map, Rule.separated]
  rw [Rule.readSeparated]
  split
  · next missed => simp [missed]
  · next term afterTerm found =>
      rw [found]
      split
      · next unmarked => simp [unmarked, Roll.chain]
      · next afterMark marked =>
          simp only [marked]
          cases termRule.readSeparated '&' afterMark with
          | none => rfl
          | some chain => rfl

/-- A roll is kept only where no mark stands behind it. -/
def refuseMark (roll : Roll) (cursor : Cursor) : Option (Roll × Cursor) :=
  match cursor.accept ['&'] with
  | (true, _) => none
  | (false, rest) => some (roll, rest)

/-- The two rules for chains differ exactly where a mark is left over, which
the one rule gives back and the other takes for a miss. -/
theorem readChain_eq_bind (cursor : Cursor) :
    chainRule.read cursor =
      (backtrackingRule.read cursor).bind fun (roll, rest) =>
        refuseMark roll rest := by
  change chainRule.read cursor = (readBacktracking cursor).bind _
  rw [readChain_eq]
  fun_induction readBacktracking cursor with
  | case1 cursor missed => simp [missed]
  | case2 cursor term afterTerm found last unmarked =>
      simp [found, unmarked, refuseMark]
  | case3 cursor term afterTerm found afterMark marked missed induction =>
      rw [← readChain_eq, missed] at induction
      simp [found, marked, refuseMark, induction]
  | case4 cursor term afterTerm found afterMark marked roll last continued
      induction =>
      rw [← readChain_eq, continued] at induction
      simp only [found, marked, induction, Option.bind_some, refuseMark]
      cases last.accept ['&'] with
      | mk accepted rest => cases accepted <;> rfl

theorem refuseMark_eq_some_iff {roll found : Roll} {cursor rest : Cursor} :
    refuseMark roll cursor = some (found, rest) ↔
      roll = found ∧ cursor.accept ['&'] = (false, rest) := by
  unfold refuseMark
  split
  · next accepted => simp [accepted]
  · next unmarked => simp [unmarked]

theorem readBacktracking_sound {cursor rest : Cursor} {roll : Roll}
    (result : readBacktracking cursor = some (roll, rest)) :
    ∃ front, ChainForm front roll ∧ cursor.tokens = front ++ rest.tokens := by
  have bare {cursor rest : Cursor} {term : Term}
      (read : termRule.read cursor = some (term, rest)) :
      ∃ front, ChainForm front (.single term) ∧
        cursor.tokens = front ++ rest.tokens := by
    obtain ⟨front, form, shape⟩ := termRule_reads.sound read
    exact ⟨front, .single form, shape⟩
  fun_induction readBacktracking cursor generalizing roll with
  | case1 => simp at result
  | case2 cursor term afterTerm found last unmarked =>
      cases result
      exact bare found
  | case3 cursor term afterTerm found afterMark marked missed induction =>
      cases result
      exact bare found
  | case4 cursor term afterTerm found afterMark marked others last continued
      induction =>
      cases result
      obtain ⟨front, form, shape⟩ := termRule_reads.sound found
      obtain ⟨chain, chainForm, remaining⟩ := induction continued
      refine ⟨front ++ .mark '&' :: chain, .joined form chainForm, ?_⟩
      rw [shape, Cursor.accept_mark_sound (by decide) marked, remaining]
      simp

/-- Where a chain may end, both rules read it to its end. -/
theorem backtrackingRule_reads :
    backtrackingRule.Reads ChainForm EndsChain where
  sound result := readBacktracking_sound result
  complete {cursor front later roll} form shape ended := by
    obtain ⟨last, read, remaining⟩ := chainRule_reads.complete form shape ended
    rw [readChain_eq_bind] at read
    obtain ⟨⟨found, rest⟩, hit, kept⟩ := Option.bind_eq_some_iff.mp read
    obtain ⟨rfl, unmarked⟩ := refuseMark_eq_some_iff.mp kept
    exact ⟨rest, hit, (Cursor.accept_kept unmarked).symm.trans remaining⟩

/-- No chain is read where the text ends. -/
theorem readBacktracking_of_tokens_eq_nil {cursor : Cursor}
    (nothing : cursor.tokens = []) : readBacktracking cursor = none := by
  refine Option.eq_none_iff_forall_ne_some.mpr fun ⟨roll, rest⟩ hit => ?_
  obtain ⟨front, form, shape⟩ := readBacktracking_sound hit
  rw [nothing] at shape
  rcases form.opening with ⟨later, rfl⟩ | ⟨count, later, rfl⟩ <;>
    cases shape

theorem readBacktracking_of_mark {cursor afterTerm afterMark : Cursor}
    {term : Term} (read : termRule.read cursor = some (term, afterTerm))
    (marked : afterTerm.accept ['&'] = (true, afterMark)) :
    readBacktracking cursor =
      match readBacktracking afterMark with
      | none => some (.single term, afterTerm)
      | some (roll, rest) => some (.joined (.single term) roll, rest) := by
  rw [readBacktracking]
  split
  · next missed => simp [read] at missed
  · next found =>
      cases read.symm.trans found
      split
      · next unmarked => simp [marked] at unmarked
      · next again =>
          cases marked.symm.trans again
          rfl

/-- Of a chain with a mark behind it that no chain follows, everything but the
mark is read. -/
theorem readBacktracking_dangling {front : List Token} {roll : Roll}
    (form : ChainForm front roll) {cursor : Cursor}
    (shape : cursor.tokens = front ++ [.mark '&']) :
    ∃ rest, readBacktracking cursor = some (roll, rest) ∧
      rest.tokens = [.mark '&'] := by
  have goesOn (later : List Token) : Unsigned (.mark '&' :: later) :=
    unsigned_mark (by decide) (by decide) later
  induction form generalizing cursor with
  | @single tokens term formed =>
      obtain ⟨afterTerm, read, remaining⟩ :=
        termRule_reads.complete formed shape (goesOn [])
      obtain ⟨afterMark, marked, nothing⟩ :=
        Cursor.accept_mark_complete remaining
      have missed := readBacktracking_of_tokens_eq_nil nothing
      refine ⟨afterTerm, ?_, remaining⟩
      rw [readBacktracking_of_mark read marked, missed]
  | @joined tokens later term others formed _ induction =>
      rw [List.append_assoc, List.cons_append] at shape
      obtain ⟨afterTerm, read, remaining⟩ :=
        termRule_reads.complete formed shape (goesOn _)
      obtain ⟨afterMark, marked, behind⟩ :=
        Cursor.accept_mark_complete remaining
      obtain ⟨rest, continued, left⟩ := induction behind
      refine ⟨rest, ?_, left⟩
      rw [readBacktracking_of_mark read marked, continued]

/-- A set is the same whether a chain may be cut short or not.  On their own
the two rules for chains differ where a mark is left over, and so on every
chain with a mark behind it at the end of the text. -/
theorem groupsBy?_backtrackingRule :
    (∀ text, groupsBy? backtrackingRule text = groups? text) ∧
      (∀ cursor, chainRule.read cursor =
        (backtrackingRule.read cursor).bind fun (roll, rest) =>
          refuseMark roll rest) ∧
      ∀ cursor front roll, ChainForm front roll →
        cursor.tokens = front ++ [.mark '&'] →
          chainRule.read cursor = none ∧
            ∃ rest, backtrackingRule.read cursor = some (roll, rest) ∧
              rest.tokens = [.mark '&'] := by
  refine ⟨?_, readChain_eq_bind, ?_⟩
  · intro text
    apply Option.ext
    intro groups
    rw [groups?_eq_some_iff_scan,
      groupsBy?_eq_some_iff_scan backtrackingRule_reads]
  · intro cursor front roll form shape
    obtain ⟨rest, read, left⟩ := readBacktracking_dangling form shape
    obtain ⟨afterMark, marked, _⟩ := Cursor.accept_mark_complete left
    refine ⟨?_, rest, read, left⟩
    rw [readChain_eq_bind]
    change (readBacktracking cursor).bind _ = none
    simp [read, refuseMark, marked]

theorem groupsBy?_backtrackingRule_dangling :
    let terms : Cursor := ⟨"d6 & d4 &".toList⟩
    groupsBy? backtrackingRule "d6 & d4 &" = none ∧
      chainRule.read terms = none ∧
        ∃ roll rest, backtrackingRule.read terms = some (roll, rest) ∧
          roll.termCount = 2 ∧ rest.tokens = [.mark '&'] := by
  intro terms
  have die (sides : Nat) (positive : 0 < sides)
      (able : sides ≤ Cursor.largest) :
      TermForm [.mark 'd', .number sides]
        (.mk 1 sides 0 Nat.one_pos positive) :=
    @TermForm.dice [] [.number sides] []
      (.mk 1 sides 0 Nat.one_pos positive) .absent (.number able) .absent
  have chain := ChainForm.joined (die 6 (by decide) (by decide))
    (.single (die 4 (by decide) (by decide)))
  have unread : groups? "d6 & d4 &" = none := by decide +kernel
  obtain ⟨agree, _, differ⟩ := groupsBy?_backtrackingRule
  obtain ⟨missed, rest, read, left⟩ := differ terms _ _ chain rfl
  refine ⟨(agree _).trans unread, missed, _, rest, read, ?_, left⟩
  decide +kernel

end DiceRoller.Notation
