import DiceRoller.Proofs.Table.Throws

/-!
# Recorded draws

A source can keep a record of the calls that are made of it, each with both of
its bounds.  It answers the same as without the record, so that what is thrown
at a table is the same, and the record tells which calls that took.
-/

namespace DiceRoller

open Source (draws)

/-- The calls for dice with the given numbers of sides: each is for a number
from one to the sides. -/
def Source.calls (dice : List Nat) : List (Int × Int) :=
  dice.map fun (sides : Nat) => (1, (sides : Int))

/-- The calls for the dice of a term, one for each die. -/
def Term.calls (term : Term) : List (Int × Int) :=
  List.replicate term.count (1, (term.sides : Int))

theorem Term.calls_dice (terms : List Term) :
    Source.calls (terms.flatMap dice) = terms.flatMap calls := by
  have each (term : Term) : Source.calls term.dice = term.calls :=
    List.map_replicate
  rw [Source.calls, List.map_flatMap]
  exact congrArg (terms.flatMap ·) (funext each)

/-- A source with the bounds of the calls made of it, in order. -/
structure Recorded (σ : Type) where
  state : σ
  drawn : List (Int × Int)

namespace Recorded

variable {σ : Type}

def fresh (state : σ) : Recorded σ :=
  { state, drawn := [] }

variable [Source σ]

instance : Source (Recorded σ) where
  draw first last recorded :=
    let (number, state) := Source.draw first last recorded.state
    (number, { state, drawn := recorded.drawn ++ [(first, last)] })
  seeded seed := fresh (Source.seeded seed)
  kind recorded := Source.kind recorded.state

theorem draws_eq (dice : List Nat) (recorded : Recorded σ) :
    draws dice recorded =
      ((draws dice recorded.state).1,
        { state := (draws dice recorded.state).2
          drawn := recorded.drawn ++ Source.calls dice }) := by
  induction dice generalizing recorded with
  | nil => simp [Source.calls]
  | cons sides later induction =>
      simp [draws, Source.draw, Source.calls, induction]

end Recorded

namespace Table

variable {σ : Type}

/-- The table with an empty record of the calls that are made at it. -/
def recording (table : Table σ) : Table (Recorded σ) :=
  { source := .fresh table.source, journal := table.journal }

end Table

end DiceRoller
