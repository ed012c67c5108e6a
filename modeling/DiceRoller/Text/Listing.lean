/-!
# Listings

The text of several items in one pair of brackets.
-/

namespace DiceRoller.Text

def bracketed (items : List String) : String :=
  "[" ++ ", ".intercalate items ++ "]"

/-- Items in round brackets; a single item keeps a comma after it, so that it
does not read as a bracketed expression. -/
def tupled : List String → String
  | [item] => "(" ++ item ++ ",)"
  | items => "(" ++ ", ".intercalate items ++ ")"

end DiceRoller.Text
