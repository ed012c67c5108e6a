import DiceRoller.Roll.Basic
import DiceRoller.Text.Listing
import DiceRoller.Text.Quoted

/-!
# The journal

What is written down while texts are read and dice are thrown.
-/

namespace DiceRoller

/-- Something that is written down when it happens. -/
inductive Event where
  /-- A text that spells no rolls. -/
  | refused (text : String)
  /-- A die has shown a face. -/
  | shown (sides : Nat) (face : Int)
  /-- All dice of a term are thrown. -/
  | thrown (term : Term) (total : Int)
  /-- All rolls of a request are thrown. -/
  | answered (identifier : String) (descriptions : List String)
      (totals : List Int)
deriving DecidableEq, Repr

/-- How much attention an event asks for. -/
inductive Level where
  | debug
  | info
deriving DecidableEq, Repr

/-- The activity that an event belongs to. -/
inductive Activity where
  | reading
  | rolling
deriving DecidableEq, Repr

namespace Event

def level : Event → Level
  | .answered _ _ _ => .info
  | _ => .debug

def activity : Event → Activity
  | .refused _ => .reading
  | _ => .rolling

def message : Event → String
  | .refused text => "Rejected dice notation " ++ Text.quoted text
  | .shown sides face =>
      "Rolled d" ++ toString sides ++ ": " ++ toString face
  | .thrown term total => term.describe ++ " => " ++ toString total
  | .answered identifier descriptions totals =>
      "Request " ++ identifier ++ " rolled " ++
        Text.bracketed (descriptions.map Text.quoted) ++ " => " ++
        Text.bracketed (totals.map toString)

end Event

/-- Events in the order in which they happened. -/
abbrev Journal := Array Event

end DiceRoller
