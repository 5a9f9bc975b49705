import MetricLoad.Random.Source

/-!
# The xoshiro256++ generator

Four 64-bit words of state, filled from the seed by four outputs of a counter with a mixing
function.  A 32-bit word is the upper half of a 64-bit one.
-/

namespace MetricLoad.Random

/-- The state of the generator. -/
structure Xoshiro where
  s0 : UInt64
  s1 : UInt64
  s2 : UInt64
  s3 : UInt64
  deriving DecidableEq, Repr, Inhabited

/-- The step of the counter that fills the state. -/
def seedStep (state : UInt64) : UInt64 :=
  state + 0x9E3779B97F4A7C15

/-- The word that a value of the counter gives. -/
def seedOutput (state : UInt64) : UInt64 :=
  let z := (state ^^^ (state >>> 30)) * 0xBF58476D1CE4E5B9
  let z := (z ^^^ (z >>> 27)) * 0x94D049BB133111EB
  z ^^^ (z >>> 31)

/-- Rotates a word to the left. -/
def rotateLeft64 (x : UInt64) (n : UInt64) : UInt64 :=
  (x <<< n) ||| (x >>> (64 - n))

namespace Xoshiro

/-- The state of a seed. -/
def ofSeed (seed : UInt64) : Xoshiro :=
  let c0 := seedStep seed
  let c1 := seedStep c0
  let c2 := seedStep c1
  let c3 := seedStep c2
  ⟨seedOutput c0, seedOutput c1, seedOutput c2, seedOutput c3⟩

/-- The next word. -/
def next64 (g : Xoshiro) : UInt64 × Xoshiro :=
  let result := rotateLeft64 (g.s0 + g.s3) 23 + g.s0
  let shifted := g.s1 <<< 17
  let s2 := g.s2 ^^^ g.s0
  let s3 := g.s3 ^^^ g.s1
  let s1 := g.s1 ^^^ s2
  let s0 := g.s0 ^^^ s3
  (result, ⟨s0, s1, s2 ^^^ shifted, rotateLeft64 s3 45⟩)

/-- The upper half of the next word. -/
def next32 (g : Xoshiro) : UInt32 × Xoshiro :=
  let (word, g) := g.next64
  ((word >>> 32).toUInt32, g)

instance : Source Xoshiro := ⟨next32, next64⟩

end Xoshiro
end MetricLoad.Random
