import DiceRoller.Cursor.Basic

/-!
# Rules of a notation

A rule reads one form from a cursor.  On a miss there is no new cursor, so the
text stays as it was; on a hit the rest is strictly shorter, which is what
bounds the repetition of a rule.
-/

namespace DiceRoller

/-- A reader of one form that never hits without consuming text. -/
structure Rule (form : Type) where
  read : Cursor → Option (form × Cursor)
  shorter : ∀ {cursor rest : Cursor} {value : form},
    read cursor = some (value, rest) →
      rest.remaining.length < cursor.remaining.length

namespace Rule

variable {form other : Type}

/-- The form, if there is one, and the cursor after the rule was tried. -/
def attempt (rule : Rule form) (cursor : Cursor) : Option form × Cursor :=
  match rule.read cursor with
  | none => (none, cursor)
  | some (value, rest) => (some value, rest)

/-- Read a form and keep its image. -/
def map (function : form → other) (rule : Rule form) : Rule other where
  read cursor :=
    (rule.read cursor).map fun (value, rest) => (function value, rest)
  shorter hit := by
    obtain ⟨⟨value, rest⟩, found, equality⟩ := Option.map_eq_some_iff.mp hit
    cases equality
    exact rule.shorter found

/-- Read forms with a mark between each two of them.  Once a mark is read a
form has to follow. -/
def readSeparated (rule : Rule form) (mark : Char) (cursor : Cursor) :
    Option ((form × List form) × Cursor) :=
  match _ : rule.read cursor with
  | none => none
  | some (first, afterFirst) =>
      match _ : afterFirst.accept [mark] with
      | (false, rest) => some ((first, []), rest)
      | (true, afterMark) =>
          match rule.readSeparated mark afterMark with
          | none => none
          | some ((second, later), rest) =>
              some ((first, second :: later), rest)
termination_by cursor.remaining.length
decreasing_by
  exact Nat.lt_trans (Cursor.accept_length_lt (List.cons_ne_nil mark []) ‹_›)
    (rule.shorter ‹_›)

theorem readSeparated_length_lt {rule : Rule form} {mark : Char}
    {cursor rest : Cursor} {forms : form × List form}
    (hit : rule.readSeparated mark cursor = some (forms, rest)) :
    rest.remaining.length < cursor.remaining.length := by
  fun_induction readSeparated rule mark cursor generalizing forms with
  | case1 => simp at hit
  | case2 cursor first afterFirst found last marked =>
      cases hit
      have unmarked := Cursor.accept_length_le [mark] afterFirst
      rw [marked] at unmarked
      exact Nat.lt_of_le_of_lt unmarked (rule.shorter found)
  | case3 => simp at hit
  | case4 cursor first afterFirst found afterMark marked second later last
      continued induction =>
      cases hit
      exact Nat.lt_trans (induction continued)
        (Nat.lt_trans (Cursor.accept_length_lt (by simp) marked)
          (rule.shorter found))

/-- One form or more with a mark between each two of them. -/
def separated (mark : Char) (rule : Rule form) : Rule (form × List form) where
  read := rule.readSeparated mark
  shorter := readSeparated_length_lt

end Rule

end DiceRoller
