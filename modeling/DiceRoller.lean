import DiceRoller.Cursor.Run
import DiceRoller.Random.Generator
import DiceRoller.Service
import DiceRoller.Proofs.Cursor.Advance
import DiceRoller.Proofs.Cursor.Extent
import DiceRoller.Proofs.Cursor.Numbers
import DiceRoller.Proofs.Cursor.Reads
import DiceRoller.Proofs.Cursor.Runs
import DiceRoller.Proofs.Cursor.Store
import DiceRoller.Proofs.Double.Nearest
import DiceRoller.Proofs.Double.Sum
import DiceRoller.Proofs.Notation.Backtracking
import DiceRoller.Proofs.Notation.Commitment
import DiceRoller.Proofs.Notation.Concatenation
import DiceRoller.Proofs.Notation.Form
import DiceRoller.Proofs.Notation.Image
import DiceRoller.Proofs.Notation.Language
import DiceRoller.Proofs.Notation.Lowered
import DiceRoller.Proofs.Notation.Reads
import DiceRoller.Proofs.Notation.Repetition
import DiceRoller.Proofs.Notation.RoundTrip
import DiceRoller.Proofs.Notation.Spelling
import DiceRoller.Proofs.Notation.Token
import DiceRoller.Proofs.Random.Draws
import DiceRoller.Proofs.Random.Showings
import DiceRoller.Proofs.Random.Sums
import DiceRoller.Proofs.Report.Coherence
import DiceRoller.Proofs.Report.Explanation
import DiceRoller.Proofs.Report.Mismatch
import DiceRoller.Proofs.Report.Place
import DiceRoller.Proofs.Report.Recovery
import DiceRoller.Proofs.Report.Results
import DiceRoller.Proofs.Report.Verification
import DiceRoller.Proofs.Request.Exactness
import DiceRoller.Proofs.Request.Limits
import DiceRoller.Proofs.Request.Reading
import DiceRoller.Proofs.Roll.Average
import DiceRoller.Proofs.Roll.Description
import DiceRoller.Proofs.Roll.Mean
import DiceRoller.Proofs.Roll.Nesting
import DiceRoller.Proofs.Roll.Walk
import DiceRoller.Proofs.Service.Agreement
import DiceRoller.Proofs.Service.Description
import DiceRoller.Proofs.Service.Finiteness
import DiceRoller.Proofs.Service.Runs
import DiceRoller.Proofs.Session.Answer
import DiceRoller.Proofs.Session.Concatenation
import DiceRoller.Proofs.Session.Draws
import DiceRoller.Proofs.Session.Isolation
import DiceRoller.Proofs.Session.Repetition
import DiceRoller.Proofs.Session.Runs
import DiceRoller.Proofs.Session.Spelling
import DiceRoller.Proofs.Session.Trail
import DiceRoller.Proofs.Table.Mean
import DiceRoller.Proofs.Table.Recording
import DiceRoller.Proofs.Table.Sequence
import DiceRoller.Proofs.Table.Throws
import DiceRoller.Proofs.Table.Totals
import DiceRoller.Proofs.Table.Trail
import DiceRoller.Proofs.Text.Trimmed
import DiceRoller.Proofs.Text.Unambiguous
