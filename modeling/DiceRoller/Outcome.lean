import DiceRoller.Text.Listing

/-!
# Outcomes

What the dice of a roll have shown, nested as the roll is, so that the total
of each side can be told.
-/

namespace DiceRoller

/-- The faces of the dice of a term in the order thrown with the bonus, or the
outcomes of two joined rolls. -/
inductive Outcome where
  | single (faces : List Int) (bonus : Int)
  | joined (left right : Outcome)
deriving DecidableEq, Repr

namespace Outcome

/-- All faces, left side first. -/
def faces : Outcome → List Int
  | .single faces _ => faces
  | .joined left right => left.faces ++ right.faces

def bonus : Outcome → Int
  | .single _ bonus => bonus
  | .joined left right => left.bonus + right.bonus

/-- The sum of the faces and bonuses, side by side. -/
def total : Outcome → Int
  | .single faces bonus => faces.foldr (· + ·) 0 + bonus
  | .joined left right => left.total + right.total

/-- The totals of the two sides of a joined outcome. -/
def subtotals (left right : Outcome) : Int × Int :=
  (left.total, right.total)

/-- The outcome with its nesting, as an error shows it. -/
def shown : Outcome → String
  | .single faces bonus =>
      "RollResult(rolls=" ++ Text.tupled (faces.map toString) ++ ", bonus=" ++
        toString bonus ++ ")"
  | .joined left right =>
      "CombinedResult(left=" ++ left.shown ++ ", right=" ++ right.shown ++ ")"

end Outcome

end DiceRoller
