import DiceRoller.Breakdown
import DiceRoller.Explanation
import DiceRoller.Settings.Basic
import DiceRoller.Table

/-!
# Reports

The answer to a text: its rolls are thrown only after every limit was checked,
and everything needed to verify the result is handed out with it.
-/

namespace DiceRoller

/-- What a report takes from the outside world. -/
structure Stamp where
  identifier : String
  time : String
  nonce : String
deriving DecidableEq, Repr

/-- What is handed out of a roll that was thrown. -/
structure Result where
  breakdown : Breakdown
  explanation : String
deriving DecidableEq, Repr

/-- The outcome of a roll, broken down and explained. -/
def Roll.result (roll : Roll) (outcome : Outcome) : Except Mismatch Result :=
  match roll.explain outcome with
  | .error mismatch => .error mismatch
  | .ok explanation =>
      .ok { breakdown := roll.breakdown outcome, explanation }

/-- Where the faces of a report came from. -/
inductive Provenance where
  | supplied (kind : String)
  | seeded (seed : Int)
  | system
deriving DecidableEq, Repr

def Provenance.label : Provenance → String
  | .supplied kind => kind
  | .seeded seed => "random.Random(seed=" ++ toString seed ++ ")"
  | .system => "secrets.SystemRandom"

/-- The answer to a text that was thrown. -/
structure Report where
  stamp : Stamp
  text : String
  descriptions : List String
  provenance : Provenance
  results : List Breakdown
  totals : List Int
  explanation : String
deriving DecidableEq, Repr

namespace Request

/-- The number of dice that the rolls of a request throw. -/
def diceCount (request : Request) : Nat :=
  (request.rolls.map Roll.diceCount).foldr (· + ·) 0

/-- Read the request that a text spells, within all limits of the settings. -/
def readWithin (settings : Settings) (text : String) (journal : Journal) :
    Except Failure Request × Journal :=
  match read settings.limits text journal with
  | (.error failure, journal) => (.error failure, journal)
  | (.ok request, journal) =>
      match exceeded (some settings.maxDice) request.diceCount with
      | some allowed =>
          (.error (.rejected (.tooManyDice request.diceCount allowed)),
            journal)
      | none => (.ok request, journal)

/-- The report on the results of a request. -/
def report (request : Request) (provenance : Provenance) (stamp : Stamp)
    (results : List Result) : Report :=
  let breakdowns := results.map Result.breakdown
  { stamp
    text := request.text
    descriptions := request.descriptions
    provenance
    results := breakdowns
    totals := breakdowns.map fun breakdown => breakdown.summary.total
    explanation := "; ".intercalate (results.map Result.explanation) }

end Request

namespace Table

variable {σ : Type} [Source σ]

/-- Throw rolls in order.  Each outcome is broken down and explained before the
next roll is thrown. -/
def throwRolls : List Roll → Table σ → Except Mismatch (List Result) × Table σ
  | [], table => (.ok [], table)
  | roll :: later, table =>
      let (outcome, table) := table.throwRoll roll
      match roll.result outcome with
      | .error mismatch => (.error mismatch, table)
      | .ok result =>
          match throwRolls later table with
          | (.error mismatch, table) => (.error mismatch, table)
          | (.ok results, table) => (.ok (result :: results), table)

/-- Throw the rolls of a request and report on them. -/
def throwRequest (provenance : Provenance) (stamp : Stamp) (request : Request)
    (table : Table σ) : Except Failure Report × Table σ :=
  match throwRolls request.rolls table with
  | (.error mismatch, table) => (.error (.faulted (.mismatched mismatch)), table)
  | (.ok results, table) =>
      let report := request.report provenance stamp results
      (.ok report,
        table.write
          (.answered stamp.identifier report.descriptions report.totals))

end Table

end DiceRoller
