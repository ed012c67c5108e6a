import DiceRoller.Notation.Rule
import DiceRoller.Roll.Basic

/-!
# The grammar of dice notation

    RollSet       ::= RollGroup (';' RollGroup)*
    RollGroup     ::= (Integer 'x')? DiceChain
    DiceChain     ::= DiceTerm ('&' DiceChain)?
    DiceTerm      ::= Integer? 'd' Integer SignedInteger?
    SignedInteger ::= ('+' | '-') Integer

Blanks may stand before every mark and number and at the end of a set.
-/

namespace DiceRoller

/-- A roll that is thrown several times. -/
structure Group where
  times : Nat
  roll : Roll
deriving DecidableEq, Repr

/-- The roll as often as it is thrown. -/
def Group.rolls (group : Group) : List Roll :=
  List.replicate group.times group.roll

namespace Notation

/-- Read the sides and the bonus of dice whose count and letter are read. -/
def readSides (count : Nat) (cursor : Cursor) : Option (Term × Cursor) :=
  match cursor.readUnsigned with
  | (none, _) => none
  | (some sides, afterSides) =>
      let (bonus, rest) := afterSides.readSigned true
      (Term.ofNat? count sides (bonus.getD 0)).map fun term => (term, rest)

/-- Read dice: a count that may be left out, the letter, the sides, and a
bonus that may be left out. -/
def readTerm (cursor : Cursor) : Option (Term × Cursor) :=
  let (count, afterCount) := cursor.readUnsigned
  match afterCount.accept ['d'] with
  | (false, _) => none
  | (true, afterLetter) => readSides (count.getD 1) afterLetter

private theorem readSides_length_le {count : Nat} {cursor rest : Cursor}
    {term : Term} (hit : readSides count cursor = some (term, rest)) :
    rest.remaining.length ≤ cursor.remaining.length := by
  have sidesRead := Cursor.readUnsigned_length_le cursor
  unfold readSides at hit
  split at hit
  · simp at hit
  · next sides afterSides equality =>
      have bonusRead := Cursor.readSigned_length_le true afterSides
      obtain ⟨_, _, built⟩ := Option.map_eq_some_iff.mp hit
      cases built
      rw [equality] at sidesRead
      exact Nat.le_trans bonusRead sidesRead

private theorem readTerm_length_lt {cursor rest : Cursor} {term : Term}
    (hit : readTerm cursor = some (term, rest)) :
    rest.remaining.length < cursor.remaining.length := by
  have countRead := Cursor.readUnsigned_length_le cursor
  unfold readTerm at hit
  dsimp only at hit
  split at hit
  · simp at hit
  · next afterLetter accepted =>
      exact Nat.lt_of_le_of_lt (readSides_length_le hit)
        (Nat.lt_of_lt_of_le (Cursor.accept_length_lt (by simp) accepted)
          countRead)

/-- Dice with a count and a bonus that may be left out. -/
def termRule : Rule Term where
  read := readTerm
  shorter := readTerm_length_lt

/-- Terms joined from the right. -/
def chainRule : Rule Roll :=
  (termRule.separated '&').map fun (first, later) => Roll.chain first later

/-- Read how often a roll is thrown. -/
def readTimes (cursor : Cursor) : Option (Nat × Cursor) :=
  match cursor.readUnsigned with
  | (none, _) => none
  | (some times, afterTimes) =>
      match afterTimes.accept ['x'] with
      | (false, _) => none
      | (true, rest) => some (times, rest)

private theorem readTimes_length_lt {cursor rest : Cursor} {times : Nat}
    (hit : readTimes cursor = some (times, rest)) :
    rest.remaining.length < cursor.remaining.length := by
  have timesRead := Cursor.readUnsigned_length_le cursor
  unfold readTimes at hit
  split at hit
  · simp at hit
  · next equality =>
      rw [equality] at timesRead
      split at hit
      · simp at hit
      · next accepted =>
          cases hit
          exact Nat.lt_of_lt_of_le
            (Cursor.accept_length_lt (by simp) accepted) timesRead

/-- How often a roll is thrown, which may be zero times here. -/
def timesRule : Rule Nat where
  read := readTimes
  shorter := readTimes_length_lt

/-- Read a roll of the given form and how often it is thrown, once if that is
left out. -/
def readGroup (rollRule : Rule Roll) (cursor : Cursor) :
    Option (Group × Cursor) :=
  let (repetition, start) := timesRule.attempt cursor
  let times := repetition.getD 1
  if times = 0 then none
  else
    (rollRule.read start).map fun (roll, rest) => ({ times, roll }, rest)

private theorem attempt_length_le {form : Type} (rule : Rule form)
    (cursor : Cursor) :
    (rule.attempt cursor).2.remaining.length ≤ cursor.remaining.length := by
  unfold Rule.attempt
  split
  · exact Nat.le_refl _
  · next equality => exact Nat.le_of_lt (rule.shorter equality)

private theorem readGroup_length_lt {rollRule : Rule Roll}
    {cursor rest : Cursor} {group : Group}
    (hit : readGroup rollRule cursor = some (group, rest)) :
    rest.remaining.length < cursor.remaining.length := by
  have timesRead := attempt_length_le timesRule cursor
  unfold readGroup at hit
  dsimp only at hit
  split at hit
  · simp at hit
  · obtain ⟨⟨roll, last⟩, found, built⟩ := Option.map_eq_some_iff.mp hit
    cases built
    exact Nat.lt_of_lt_of_le (rollRule.shorter found) timesRead

/-- A roll of the given form with a positive number of times it is thrown. -/
def groupRuleOf (rollRule : Rule Roll) : Rule Group where
  read := readGroup rollRule
  shorter := readGroup_length_lt

/-- Read forms with semicolons between them up to the end of the text. -/
def readWhole {form : Type} (rule : Rule form) (cursor : Cursor) :
    Option (List form × Cursor) :=
  match (rule.separated ';').read cursor with
  | none => none
  | some ((first, later), afterForms) =>
      match afterForms.atEnd with
      | (false, _) => none
      | (true, rest) => some (first :: later, rest)

private theorem readWhole_length_lt {form : Type} {rule : Rule form}
    {cursor rest : Cursor} {forms : List form}
    (hit : readWhole rule cursor = some (forms, rest)) :
    rest.remaining.length < cursor.remaining.length := by
  unfold readWhole at hit
  split at hit
  · simp at hit
  · next afterForms found =>
      have skipped := Cursor.skipBlanks_length_le afterForms
      split at hit
      · simp at hit
      · next exhausted =>
          cases hit
          have same : afterForms.skipBlanks = rest :=
            congrArg Prod.snd exhausted
          subst same
          exact Nat.lt_of_le_of_lt skipped
            ((rule.separated ';').shorter found)

/-- A whole text of groups whose rolls are of the given form. -/
def setRuleOf (rollRule : Rule Roll) : Rule (List Group) where
  read := readWhole (groupRuleOf rollRule)
  shorter := readWhole_length_lt

/-- A group whose roll is a chain. -/
def groupRule : Rule Group :=
  groupRuleOf chainRule

/-- A whole text of groups whose rolls are chains. -/
def setRule : Rule (List Group) :=
  setRuleOf chainRule

end Notation

end DiceRoller
