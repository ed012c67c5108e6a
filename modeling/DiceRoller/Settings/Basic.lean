import DiceRoller.Request

/-!
# Settings

What a session is run with: a seed, if its dice shall be reproducible, and the
limits of a request.
-/

namespace DiceRoller

structure Settings where
  seed : Option Int := none
  maxDice : Int := 1000
  maxRolls : Int := 100
  maxTerms : Int := 100
deriving DecidableEq, Repr

/-- The limits that a text has to keep. -/
def Settings.limits (settings : Settings) : Limits :=
  { rolls := some settings.maxRolls, terms := some settings.maxTerms }

end DiceRoller
