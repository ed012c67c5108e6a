import DiceRoller.Cursor.Basic

/-!
# Runs of a cursor

A run drives one cursor through a text, keeps snapshots of it on the side, and
may return to a snapshot or go on with one in place of the cursor.
-/

namespace DiceRoller.Cursor

/-- One step of a run.  Snapshots are numbered in the order they were taken. -/
inductive Step where
  | atEnd
  | readUnsigned
  | readSigned (signRequired : Bool)
  | accept (literal : List Char)
  | snapshot
  | restore (index : Nat)
  | swap (index : Nat)
  | shown
deriving DecidableEq, Repr

inductive Answer where
  | truth (value : Bool)
  | number (value : Option Int)
  | text (value : String)
  | nothing
deriving DecidableEq, Repr

/-- The driven cursor and the snapshots taken so far, oldest first. -/
structure Run where
  current : Cursor
  snapshots : List Cursor
deriving DecidableEq, Repr

namespace Run

/-- A run that starts at the beginning of a text. -/
def start (text : List Char) : Run :=
  { current := ⟨text⟩, snapshots := [] }

/-- Put the cursor where a read has left it. -/
def after {result : Type} (run : Run) (answer : result → Answer)
    (read : result × Cursor) : Answer × Run :=
  (answer read.1, { run with current := read.2 })

/-- Take one step.  A step to a snapshot that was never taken does nothing. -/
def step (run : Run) : Step → Answer × Run
  | .atEnd => run.after .truth run.current.atEnd
  | .readUnsigned =>
      run.after (fun value => .number (value.map Int.ofNat))
        run.current.readUnsigned
  | .readSigned signRequired =>
      run.after .number (run.current.readSigned signRequired)
  | .accept literal => run.after .truth (run.current.accept literal)
  | .snapshot =>
      (.text (String.ofList run.current.remaining),
        { run with snapshots := run.snapshots ++ [run.current] })
  | .restore index =>
      (.nothing,
        { run with current := run.snapshots[index]?.getD run.current })
  | .swap index =>
      (.nothing,
        { current := run.snapshots[index]?.getD run.current
          snapshots := run.snapshots.set index run.current })
  | .shown => (.text run.current.shown, run)

/-- Take the steps in order; each answer comes with the text that remains
after its step. -/
def steps (run : Run) : List Step → List (Answer × String)
  | [] => []
  | first :: later =>
      let (answer, next) := run.step first
      (answer, String.ofList next.current.remaining) :: next.steps later

end Run

end DiceRoller.Cursor
