import DiceRoller.Register
import DiceRoller.Report

/-!
# Sessions

A session keeps its generators from one order to the next: those that were
given names, one for every seed that was drawn from, and the system's own.  An
order is read first; if it is not rejected, it draws from the one generator
that it selects.  What an error leaves behind is kept as it is.
-/

namespace DiceRoller

/-- The generator that an order draws from. -/
inductive Selection where
  | named (name : String)
  | seeded (seed : Int)
  | system
deriving DecidableEq, Repr

/-- A text to be thrown, with the generator it asks for and the settings. -/
structure Order where
  text : String
  generator : Option String
  settings : Settings
deriving DecidableEq, Repr

/-- The generators of a session and the journal of all its orders. -/
structure Session (σ : Type) where
  named : Register String σ
  seeded : Register Int σ
  system : σ
  journal : Journal

namespace Session

variable {σ : Type}

/-- A session before its first order. -/
def start (named : List (String × σ)) (system : σ) : Session σ :=
  { named := .ofList named, seeded := .empty, system, journal := #[] }

/-- A generator asked for by name goes before the seed of the settings.  A
name that was not given to a generator asks for none. -/
def select (order : Order) (session : Session σ) : Selection :=
  match order.generator.filter fun name => (session.named.get? name).isSome with
  | some name => .named name
  | none =>
      match order.settings.seed with
      | some seed => .seeded seed
      | none => .system

variable [Source σ]

/-- The present state of a generator; a seed that was not drawn from yet has
its first state. -/
def generator (session : Session σ) : Selection → σ
  | .named name => (session.named.get? name).getD session.system
  | .seeded seed => (session.seeded.get? seed).getD (Source.seeded seed)
  | .system => session.system

/-- Keep the state that a generator was left in. -/
def keep (source : σ) (session : Session σ) : Selection → Session σ
  | .named name => { session with named := session.named.put name source }
  | .seeded seed => { session with seeded := session.seeded.put seed source }
  | .system => { session with system := source }

/-- How a report names the selected generator. -/
def provenance (session : Session σ) : Selection → Provenance
  | .named name => .supplied (Source.kind (session.generator (.named name)))
  | .seeded seed => .seeded seed
  | .system => .system

/-- The table at which a generator is drawn from. -/
def table (session : Session σ) (selection : Selection) : Table σ :=
  { source := session.generator selection, journal := session.journal }

/-- Read the request of an order within its limits. -/
def read (order : Order) (session : Session σ) :
    Except Failure Request × Session σ :=
  let (reading, journal) :=
    Request.readWithin order.settings order.text session.journal
  (reading, { session with journal })

/-- Throw the request of an order with the generator that the order selects. -/
def throwRequest (stamp : Stamp) (order : Order) (request : Request)
    (session : Session σ) : Except Failure Report × Session σ :=
  let selection := session.select order
  let (reply, table) :=
    (session.table selection).throwRequest (session.provenance selection) stamp
      request
  (reply,
    { session.keep table.source selection with journal := table.journal })

/-- Answer an order. -/
def answer (stamp : Stamp) (order : Order) (session : Session σ) :
    Except Failure Report × Session σ :=
  match session.read order with
  | (.error failure, session) => (.error failure, session)
  | (.ok request, session) => session.throwRequest stamp order request

/-- Answer orders one after the other. -/
def answers : List (Stamp × Order) → Session σ →
    List (Except Failure Report) × Session σ
  | [], session => ([], session)
  | (stamp, order) :: later, session =>
      let (reply, session) := session.answer stamp order
      let (replies, session) := answers later session
      (reply :: replies, session)

end Session

end DiceRoller
