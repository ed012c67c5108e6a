import DiceRoller.Journal
import DiceRoller.Outcome
import DiceRoller.Random.Source

/-!
# Tables

Dice are thrown at a table: it holds the source of the faces and the journal
in which every face is written down as it is shown.
-/

namespace DiceRoller

/-- A source of faces and the journal of what was thrown with it. -/
structure Table (σ : Type) where
  source : σ
  journal : Journal

namespace Table

variable {σ : Type}

def write (event : Event) (table : Table σ) : Table σ :=
  { table with journal := table.journal.push event }

variable [Source σ]

def throwDie (sides : Nat) (table : Table σ) : Int × Table σ :=
  let (face, source) := Source.draw 1 sides table.source
  (face, { source, journal := table.journal.push (.shown sides face) })

/-- Throw so many dice of equally many sides after those that have shown the
given faces, latest face first. -/
def throwDice (sides : Nat) : Nat → List Int → Table σ → List Int × Table σ
  | 0, shown, table => (shown.reverse, table)
  | count + 1, shown, table =>
      let (face, table) := table.throwDie sides
      throwDice sides count (face :: shown) table

def throwTerm (term : Term) (table : Table σ) : Outcome × Table σ :=
  let (faces, table) := throwDice term.sides term.count [] table
  let outcome := Outcome.single faces term.bonus
  (outcome, table.write (.thrown term outcome.total))

/-- Throw a roll, left side first. -/
def throwRoll : Roll → Table σ → Outcome × Table σ
  | .single term, table => table.throwTerm term
  | .joined left right, table =>
      let (leftOutcome, table) := throwRoll left table
      let (rightOutcome, table) := throwRoll right table
      (.joined leftOutcome rightOutcome, table)

end Table

end DiceRoller
