import DiceRoller.Random.Source
import DiceRoller.Random.Twister

/-!
# Generators

The sources that can be handed to a session: the twister, a script that
answers what was written down before, and a source that always answers the
first bound, which is all that dice of one side can show.
-/

namespace DiceRoller

/-- Faces that are answered in turn, over and over, whatever the bounds. -/
structure Script where
  faces : Array Int
  /-- The bounds of all calls so far, in order. -/
  calls : Array (Int × Int)
deriving DecidableEq, Repr

namespace Script

def ofFaces (faces : List Int) : Script :=
  { faces := faces.toArray, calls := #[] }

/-- The next face of the script. -/
def nextFace (first last : Int) (script : Script) : Int × Script :=
  (script.faces.getD (script.calls.size % script.faces.size) 0,
    { script with calls := script.calls.push (first, last) })

end Script

/-- A source of one of the three kinds. -/
inductive Generator where
  | twister (state : Twister)
  | scripted (script : Script)
  | lowest

namespace Generator

def draw (first last : Int) : Generator → Int × Generator
  | .twister state =>
      let (number, next) := state.nextBetween first last
      (number, .twister next)
  | .scripted script =>
      let (face, next) := script.nextFace first last
      (face, .scripted next)
  | .lowest => (first, .lowest)

def kind : Generator → String
  | .twister _ => "Random"
  | .scripted _ => "Scripted"
  | .lowest => "Lowest"

/-- The bounds of the calls that a script has answered. -/
def calls : Generator → Option (Array (Int × Int))
  | .scripted script => some script.calls
  | _ => none

instance : Source Generator where
  draw := draw
  seeded seed := .twister (Twister.ofSeed seed)
  kind := kind

end Generator

end DiceRoller
