import MetricLoad.Random.Source

/-!
# The ChaCha generator with eight rounds

The words of the stream are those of the key stream blocks in order.  A block is a function of the
key and a 64-bit counter; the state holds the words of the current block that are still unused.  A
64-bit word is two successive 32-bit words, the low one first, also across a block boundary.

A key is expanded from a 64-bit seed by a multiplicative generator with a permuted output.
-/

namespace MetricLoad.Random

/-- Sixteen words: constants, key, counter and stream number, or what the rounds make of them. -/
structure ChaChaBlock where
  x0 : UInt32
  x1 : UInt32
  x2 : UInt32
  x3 : UInt32
  x4 : UInt32
  x5 : UInt32
  x6 : UInt32
  x7 : UInt32
  x8 : UInt32
  x9 : UInt32
  x10 : UInt32
  x11 : UInt32
  x12 : UInt32
  x13 : UInt32
  x14 : UInt32
  x15 : UInt32

/-- Rotates a word to the left. -/
def rotateLeft (x : UInt32) (n : UInt32) : UInt32 :=
  (x <<< n) ||| (x >>> (32 - n))

/-- The quarter round on four words. -/
def quarterRound (a b c d : UInt32) : UInt32 × UInt32 × UInt32 × UInt32 :=
  let a := a + b
  let d := rotateLeft (d ^^^ a) 16
  let c := c + d
  let b := rotateLeft (b ^^^ c) 12
  let a := a + b
  let d := rotateLeft (d ^^^ a) 8
  let c := c + d
  let b := rotateLeft (b ^^^ c) 7
  (a, b, c, d)

/-- A round on the columns and then one on the diagonals. -/
def ChaChaBlock.doubleRound (s : ChaChaBlock) : ChaChaBlock :=
  let (x0, x4, x8, x12) := quarterRound s.x0 s.x4 s.x8 s.x12
  let (x1, x5, x9, x13) := quarterRound s.x1 s.x5 s.x9 s.x13
  let (x2, x6, x10, x14) := quarterRound s.x2 s.x6 s.x10 s.x14
  let (x3, x7, x11, x15) := quarterRound s.x3 s.x7 s.x11 s.x15
  let (x0, x5, x10, x15) := quarterRound x0 x5 x10 x15
  let (x1, x6, x11, x12) := quarterRound x1 x6 x11 x12
  let (x2, x7, x8, x13) := quarterRound x2 x7 x8 x13
  let (x3, x4, x9, x14) := quarterRound x3 x4 x9 x14
  ⟨x0, x1, x2, x3, x4, x5, x6, x7, x8, x9, x10, x11, x12, x13, x14, x15⟩

/-- The words of the sum of two blocks. -/
def ChaChaBlock.sumWords (s t : ChaChaBlock) : List UInt32 :=
  [s.x0 + t.x0, s.x1 + t.x1, s.x2 + t.x2, s.x3 + t.x3, s.x4 + t.x4, s.x5 + t.x5, s.x6 + t.x6,
    s.x7 + t.x7, s.x8 + t.x8, s.x9 + t.x9, s.x10 + t.x10, s.x11 + t.x11, s.x12 + t.x12,
    s.x13 + t.x13, s.x14 + t.x14, s.x15 + t.x15]

/-- A key of eight words. -/
structure ChaChaKey where
  k0 : UInt32
  k1 : UInt32
  k2 : UInt32
  k3 : UInt32
  k4 : UInt32
  k5 : UInt32
  k6 : UInt32
  k7 : UInt32
  deriving Inhabited

/-- The block before the rounds. -/
def ChaChaKey.initialBlock (key : ChaChaKey) (counter : UInt64) : ChaChaBlock :=
  ⟨0x61707865, 0x3320646E, 0x79622D32, 0x6B206574, key.k0, key.k1, key.k2, key.k3, key.k4, key.k5,
    key.k6, key.k7, counter.toUInt32, (counter >>> 32).toUInt32, 0, 0⟩

/-- The sixteen words of a block of the stream. -/
def ChaChaKey.blockWords (key : ChaChaKey) (counter : UInt64) : List UInt32 :=
  let start := key.initialBlock counter
  start.doubleRound.doubleRound.doubleRound.doubleRound.sumWords start

/-- A position in the stream of a key. -/
structure ChaCha where
  key : ChaChaKey
  /-- The number of the next block. -/
  counter : UInt64
  /-- The unused words of the block before it. -/
  unused : List UInt32
  deriving Inhabited

/-- The multiplicative step of the seed expansion. -/
def expandStep (state : UInt64) : UInt64 :=
  state * 6364136223846793005 + 11634580027462260723

/-- The word that a state of the seed expansion gives. -/
def expandOutput (state : UInt64) : UInt32 :=
  let x := (((state >>> 18) ^^^ state) >>> 27).toUInt32
  let r := (state >>> 59).toUInt32
  (x >>> r) ||| (x <<< ((32 - r) % 32))

/-- The key of a seed. -/
def ChaChaKey.ofSeed (seed : UInt64) : ChaChaKey :=
  let s0 := expandStep seed
  let s1 := expandStep s0
  let s2 := expandStep s1
  let s3 := expandStep s2
  let s4 := expandStep s3
  let s5 := expandStep s4
  let s6 := expandStep s5
  let s7 := expandStep s6
  ⟨expandOutput s0, expandOutput s1, expandOutput s2, expandOutput s3, expandOutput s4,
    expandOutput s5, expandOutput s6, expandOutput s7⟩

namespace ChaCha

/-- The start of the stream of a seed. -/
def ofSeed (seed : UInt64) : ChaCha :=
  ⟨ChaChaKey.ofSeed seed, 0, []⟩

/-- The next word of the stream. -/
def next32 (g : ChaCha) : UInt32 × ChaCha :=
  match g.unused with
  | word :: rest => (word, { g with unused := rest })
  | [] =>
    match g.key.blockWords g.counter with
    | word :: rest => (word, ⟨g.key, g.counter + 1, rest⟩)
    | [] => (0, g)

/-- The number of words after which the stream begins again: sixteen for each value of the
counter. -/
def period : Nat := 16 * UInt64.size

/-- The next two words of the stream as one, the low half first. -/
def next64 (g : ChaCha) : UInt64 × ChaCha :=
  let (low, g) := g.next32
  let (high, g) := g.next32
  (low.toUInt64 ||| (high.toUInt64 <<< 32), g)

instance : Source ChaCha := ⟨next32, next64⟩

end ChaCha
end MetricLoad.Random
