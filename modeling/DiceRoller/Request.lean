import DiceRoller.Explanation
import DiceRoller.Journal
import DiceRoller.Notation.Reading
import DiceRoller.Text.Blank

/-!
# Requests

A request is a text that spells rolls within given limits.  The limits are
checked on the groups as they are spelled, before any group is expanded.
-/

namespace DiceRoller

/-- Why a text is not a request that may be thrown. -/
inductive Rejection where
  | blank
  | unreadable (text : String)
  | tooManyRolls (requested : Nat) (allowed : Int)
  | tooManyTerms (longest : Nat) (allowed : Int)
  | tooManyDice (requested : Nat) (allowed : Int)
deriving DecidableEq, Repr

namespace Rejection

/-- A text that shows every part of the notation. -/
def sample : String :=
  " Example: '4x3d8-5 & 2d6 ; d20'."

def message : Rejection → String
  | .blank => "[UNPARSEABLE_INPUT] Empty input." ++ sample
  | .unreadable text =>
      "[UNPARSEABLE_INPUT] Could not understand '" ++ text ++ "'." ++ sample
  | .tooManyRolls requested allowed =>
      "[TOO_MANY_ROLLS] " ++ toString requested ++
        " rolls requested, at most " ++ toString allowed ++ " are allowed." ++
        sample
  | .tooManyTerms longest allowed =>
      "[TOO_MANY_TERMS] A roll joins " ++ toString longest ++
        " terms with '&', at most " ++ toString allowed ++ " are allowed." ++
        sample
  | .tooManyDice requested allowed =>
      "[TOO_MANY_DICE] " ++ toString requested ++
        " dice requested, at most " ++ toString allowed ++
        " are allowed. Example: '4x3d8-5'."

end Rejection

/-- An error of the reading or the throwing itself, for which no text is to
blame. -/
inductive Fault where
  /-- The longest of no rolls was asked for. -/
  | noRolls
  /-- A roll was to explain the outcome of another one. -/
  | mismatched (mismatch : Mismatch)
deriving DecidableEq, Repr

def Fault.message : Fault → String
  | .noRolls => "max() arg is an empty sequence"
  | .mismatched mismatch => mismatch.message

/-- Why a text has no answer. -/
inductive Failure where
  | rejected (rejection : Rejection)
  | faulted (fault : Fault)
deriving DecidableEq, Repr

/-- The most rolls of a request and the most terms of one roll; a limit that
is left out allows any number. -/
structure Limits where
  rolls : Option Int
  terms : Option Int
deriving DecidableEq, Repr

/-- The limit that a number exceeds. -/
def exceeded (limit : Option Int) (number : Nat) : Option Int :=
  limit.filter fun allowed => allowed < number

/-- A text with the rolls that it spells and their descriptions. -/
structure Request where
  text : String
  rolls : List Roll
  descriptions : List String
deriving DecidableEq, Repr

namespace Notation

/-- Read the groups of a text and write down a text that spells none. -/
def readGroups (text : String) (journal : Journal) :
    Option (List Group) × Journal :=
  match groups? text with
  | none => (none, journal.push (.refused text))
  | some groups => (some groups, journal)

/-- Read the rolls of a text and write down a text that spells none. -/
def readRolls (text : String) (journal : Journal) :
    Option (List Roll) × Journal :=
  let (groups, journal) := readGroups text journal
  (groups.map fun groups => groups.flatMap Group.rolls, journal)

def rollCount (groups : List Group) : Nat :=
  (groups.map Group.times).foldr (· + ·) 0

/-- The number of terms of the roll that joins most of them, if there is a
roll. -/
def longestRoll? (groups : List Group) : Option Nat :=
  (groups.map fun group => group.roll.termCount).max?

end Notation

namespace Request

open Notation

/-- The request of a text whose groups are read. -/
def ofGroups (text : String) (groups : List Group) : Request :=
  let rolls := groups.flatMap Group.rolls
  { text, rolls, descriptions := rolls.map Roll.describe }

/-- The request of a text whose groups are read, if its longest roll keeps the
limit.  Without a limit the longest roll is not asked for. -/
def checkedTerms (limit : Option Int) (text : String) (groups : List Group) :
    Except Failure Request :=
  match limit with
  | none => .ok (ofGroups text groups)
  | some allowed =>
      match longestRoll? groups with
      | none => .error (.faulted .noRolls)
      | some longest =>
          if allowed < longest then
            .error (.rejected (.tooManyTerms longest allowed))
          else .ok (ofGroups text groups)

/-- The request of a text whose groups are read, if it keeps the limits. -/
def checked (limits : Limits) (text : String) (groups : List Group) :
    Except Failure Request :=
  match exceeded limits.rolls (rollCount groups) with
  | some allowed =>
      .error (.rejected (.tooManyRolls (rollCount groups) allowed))
  | none => checkedTerms limits.terms text groups

/-- Read the request that a text spells. -/
def read (limits : Limits) (text : String) (journal : Journal) :
    Except Failure Request × Journal :=
  match Text.trim Text.isBlank text.toList with
  | [] => (.error (.rejected .blank), journal)
  | first :: later =>
      match readGroups text journal with
      | (none, journal) =>
          (.error (.rejected (.unreadable (String.ofList (first :: later)))),
            journal)
      | (some groups, journal) => (checked limits text groups, journal)

end Request

end DiceRoller
