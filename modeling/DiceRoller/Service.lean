import DiceRoller.Roll.Average
import DiceRoller.Session

/-!
# The service

A service runs under one set of settings and offers two tools: to throw a
text, and to describe the rolls of a text with their averages without throwing
them.
-/

namespace DiceRoller

/-- The rolls of a text with their averages. -/
structure Description where
  text : String
  rolls : List (String × Double)
deriving DecidableEq, Repr

inductive Call where
  | roll (text : String)
  | describe (text : String)
deriving DecidableEq, Repr

/-- What a call is answered with. -/
inductive Reply where
  | report (report : Report)
  | description (description : Description)
  | rejected (rejection : Rejection)
  | faulted (fault : Fault)
  | overflowed (overflow : Overflow)
deriving DecidableEq, Repr

def Reply.ofFailure : Failure → Reply
  | .rejected rejection => .rejected rejection
  | .faulted fault => .faulted fault

namespace Request

/-- The descriptions of rolls with their averages. -/
def averages : List (Roll × String) → Except Overflow (List (String × Double))
  | [] => .ok []
  | (roll, description) :: later =>
      match roll.average with
      | .error overflow => .error overflow
      | .ok average =>
          match averages later with
          | .error overflow => .error overflow
          | .ok described => .ok ((description, average) :: described)

def describe (request : Request) : Except Overflow Description :=
  match averages (request.rolls.zip request.descriptions) with
  | .error overflow => .error overflow
  | .ok rolls => .ok { text := request.text, rolls }

end Request

namespace Service

/-- Describe the rolls that a text spells; dice are not counted, as none are
thrown. -/
def describe (settings : Settings) (text : String) (journal : Journal) :
    Reply × Journal :=
  match Request.read settings.limits text journal with
  | (.error failure, journal) => (.ofFailure failure, journal)
  | (.ok request, journal) =>
      match request.describe with
      | .error overflow => (.overflowed overflow, journal)
      | .ok description => (.description description, journal)

variable {σ : Type} [Source σ]

def reply (settings : Settings) (stamp : Stamp) (session : Session σ) :
    Call → Reply × Session σ
  | .roll text =>
      match session.answer stamp { text, generator := none, settings } with
      | (.error failure, session) => (.ofFailure failure, session)
      | (.ok report, session) => (.report report, session)
  | .describe text =>
      let (reply, journal) := describe settings text session.journal
      (reply, { session with journal })

/-- Answer calls one after the other. -/
def replies (settings : Settings) : List (Stamp × Call) → Session σ →
    List Reply × Session σ
  | [], session => ([], session)
  | (stamp, call) :: later, session =>
      let (first, session) := reply settings stamp session call
      let (others, session) := replies settings later session
      (first :: others, session)

end Service

end DiceRoller
