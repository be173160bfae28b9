/-!
# Random sources

A random source answers each request for an integer in a closed range and goes into its next state.
Nothing is assumed about the answers, not even that they lie in the range. A supply is a source that
may be asked a limited number of times, and a batch is what was drawn from it in one go.
-/

namespace Tabletop

/-- A closed range of integers. -/
structure Range where
  low : Int
  high : Int
  deriving DecidableEq

/-- A state that answers requests for random integers. -/
class RandomSource (σ : Type) where
  /-- The answer to a request, and the state after it. -/
  draw : Range → σ → Int × σ

/-- A source with the number of times it may still be asked. -/
structure Supply (σ : Type) where
  source : σ
  left : Nat

/-- The values drawn in one go, and the supply after them. -/
structure Batch (σ : Type) where
  values : List Int
  supply : Supply σ
  /-- All values that were wanted came up. -/
  complete : Bool

/-- Put a value in front of a batch. -/
def Batch.cons {σ : Type} (value : Int) (batch : Batch σ) : Batch σ :=
  { batch with values := value :: batch.values }

/-- Draw, at most `left` times, until the wanted number of values that count has come up. -/
def drawUntil {σ : Type} [RandomSource σ] (range : Range) (counts : Int → Bool) :
    (left wanted : Nat) → σ → Batch σ
  | left, 0, source => ⟨[], ⟨source, left⟩, true⟩
  | 0, _ + 1, source => ⟨[], ⟨source, 0⟩, false⟩
  | left + 1, wanted + 1, source =>
    let (value, next) := RandomSource.draw range source
    (drawUntil range counts left (if counts value then wanted else wanted + 1) next).cons value

/-- The sources that need no randomness of their own. -/
inductive Generator
  /-- The listed values in order, the last one again and again. -/
  | script (values : List Int)
  /-- Always the upper end of the range. -/
  | highest
  /-- Always the lower end of the range. -/
  | lowest
  /-- A linear congruential generator modulo `2 ^ 64`. -/
  | congruential (state : UInt64)

namespace Generator

/-- The congruential generator that starts from a seed. -/
def ofSeed (seed : Int) : Generator := congruential (UInt64.ofInt seed)

/-- The state of the congruential generator after a given one. -/
def nextState (state : UInt64) : UInt64 := state * 6364136223846793005 + 1442695040888963407

/-- The answer of a generator and its next state. A congruential generator uses its upper 31 bits. -/
def draw (range : Range) : Generator → Int × Generator
  | script [] => (range.low, script [])
  | script [value] => (value, script [value])
  | script (value :: values) => (value, script values)
  | highest => (range.high, highest)
  | lowest => (range.low, lowest)
  | congruential state =>
    let next := nextState state
    (range.low + Int.fmod (next >>> 33).toNat (range.high - range.low + 1), congruential next)

end Generator

instance : RandomSource Generator := ⟨Generator.draw⟩

end Tabletop
