import DiceRoller.Notation.Grammar

/-!
# Reading dice notation

A text is read as a whole or not at all.  Letters count the same in either
case; the notation knows the letters of ASCII only.
-/

namespace DiceRoller.Notation

/-- The groups that the text spells, unexpanded. -/
def groups? (text : String) : Option (List Group) :=
  (setRule.read ⟨text.toList.map Char.toLower⟩).map Prod.fst

/-- The rolls that the text spells, in the order in which they are thrown. -/
def rolls? (text : String) : Option (List Roll) :=
  (groups? text).map fun groups => groups.flatMap Group.rolls

end DiceRoller.Notation
