/-!
# Sources of faces

Rolling dice needs no more of a source than that it answers each call for a
number between two bounds and passes into a next state.  No law is asked of the
answers, so what holds of every source also holds of one that is biased or
scripted.
-/

namespace DiceRoller

/-- States of a source of faces. -/
class Source (σ : Type) where
  /-- A number from the first bound to the second one, and the next state. -/
  draw : Int → Int → σ → Int × σ
  /-- The first state that belongs to a seed. -/
  seeded : Int → σ
  /-- The word by which reports call a source. -/
  kind : σ → String

end DiceRoller
