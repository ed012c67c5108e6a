/-!
# The Mersenne twister

A generator of 32-bit words with a state of 624 words, seeded from integers of
any size, and the uniform choice below a bound by rejection.
-/

namespace DiceRoller

/-- The words of a state of the twister. -/
abbrev TwisterWords := Vector UInt32 624

/-- A state of the twister and the number of its words already given out. -/
structure Twister where
  words : TwisterWords
  used : Nat

namespace Twister

/-- The word with its upper bits folded into the lower ones. -/
def fold (word : UInt32) : UInt32 :=
  word ^^^ (word >>> 30)

/-- The words that grow out of a single one. -/
def expand (seed : UInt32) : TwisterWords :=
  Nat.fold 623
    (fun index _ words =>
      words.set (index + 1)
        (1812433253 * fold words[index] + (index + 1).toUInt32))
    (Vector.replicate 624 seed)

/-- Seeding goes round the words after the first one; at the end of a round
the first word takes the value of the last. -/
def closeRound (index : Nat) (words : TwisterWords) : TwisterWords :=
  if index = 622 then words.set 0 words[623] else words

/-- Mix a word of the key into the words. -/
def mixKey (key : Array UInt32) (step : Nat) (words : TwisterWords) :
    TwisterWords :=
  let index := step % 623
  let position := step % key.size
  let mixed := (words[index + 1] ^^^ (fold words[index] * 1664525)) +
    key.getD position 0 + position.toUInt32
  closeRound index (words.set (index + 1) mixed)

/-- Mix the position of a word into the words. -/
def mixPosition (step : Nat) (words : TwisterWords) : TwisterWords :=
  let index := step % 623
  let mixed := (words[index + 1] ^^^ (fold words[index] * 1566083941)) -
    (index + 1).toUInt32
  closeRound index (words.set (index + 1) mixed)

/-- The state that grows out of a key of at least one word. -/
def ofKey (key : Array UInt32) : Twister :=
  let steps := max 624 key.size
  let keyed := Nat.fold steps (fun step _ => mixKey key step) (expand 19650218)
  let mixed := Nat.fold 623 (fun step _ => mixPosition (steps + step)) keyed
  { words := mixed.set 0 0x80000000, used := 624 }

/-- The 32-bit digits of a number, least significant first. -/
def wordsOf (number : Nat) : List UInt32 :=
  if number < 0x100000000 then [number.toUInt32]
  else number.toUInt32 :: wordsOf (number / 0x100000000)
termination_by number
decreasing_by omega

/-- The state that belongs to a seed; its sign does not count. -/
def ofSeed (seed : Int) : Twister :=
  ofKey (wordsOf seed.natAbs).toArray

/-- The words after the given ones. -/
def regenerate (words : TwisterWords) : TwisterWords :=
  Nat.fold 624
    (fun index bounded words =>
      let joined := (words[index] &&& 0x80000000) |||
        (words[(index + 1) % 624] &&& 0x7fffffff)
      let twisted : UInt32 := if joined &&& 1 = 0 then 0 else 0x9908b0df
      words.set index
        (words[(index + 397) % 624] ^^^ (joined >>> 1) ^^^ twisted))
    words

/-- Spread the bits of a word of the state. -/
def temper (word : UInt32) : UInt32 :=
  let word := word ^^^ (word >>> 11)
  let word := word ^^^ ((word <<< 7) &&& 0x9d2c5680)
  let word := word ^^^ ((word <<< 15) &&& 0xefc60000)
  word ^^^ (word >>> 18)

def nextWord (state : Twister) : UInt32 × Twister :=
  if unused : state.used < 624 then
    (temper state.words[state.used], { state with used := state.used + 1 })
  else
    let words := regenerate state.words
    (temper words[0], { words, used := 1 })

/-- The next number of the given number of bits.  Whole words are taken from
the least significant end on, and the last word gives its upper bits. -/
def nextBits (bits : Nat) (state : Twister) : Nat × Twister :=
  let (word, state) := state.nextWord
  if bits ≤ 32 then (word.toNat >>> (32 - bits), state)
  else
    let (upper, state) := nextBits (bits - 32) state
    (word.toNat + upper <<< 32, state)
termination_by bits

/-- The number of choices after which a choice that is too large is reduced
instead of repeated.  At most half of the numbers of as many bits as the bound
has are too large, so that so many choices in a row are too large does not
come about. -/
def attempts : Nat := 10000

/-- The first of so many choices that is below the bound. -/
def chooseBelow (bound : Nat) : Nat → Twister → Nat × Twister
  | 0, state =>
      let (number, state) := state.nextBits (bound.log2 + 1)
      (number % bound, state)
  | again + 1, state =>
      let (number, state) := state.nextBits (bound.log2 + 1)
      if number < bound then (number, state)
      else chooseBelow bound again state

/-- The next number from the first bound to the second one, which is not below
it. -/
def nextBetween (first last : Int) (state : Twister) : Int × Twister :=
  let (number, state) := chooseBelow (last - first + 1).toNat attempts state
  (first + Int.ofNat number, state)

private theorem chooseBelow_lt {bound : Nat} (positive : 0 < bound)
    (again : Nat) (state : Twister) :
    (chooseBelow bound again state).1 < bound := by
  induction again generalizing state with
  | zero => exact Nat.mod_lt _ positive
  | succ again induction =>
      unfold chooseBelow
      dsimp only
      split
      · assumption
      · exact induction _

/-- The twister keeps the bounds. -/
theorem nextBetween_mem {first last : Int} (ordered : first ≤ last)
    (state : Twister) :
    first ≤ (nextBetween first last state).1 ∧
      (nextBetween first last state).1 ≤ last := by
  have positive : 0 < (last - first + 1).toNat := by omega
  have below := chooseBelow_lt positive attempts state
  unfold nextBetween
  dsimp only
  rw [Int.ofNat_eq_natCast]
  omega

end Twister

end DiceRoller
