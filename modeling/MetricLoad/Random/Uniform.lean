import MetricLoad.Random.Source

/-!
# Uniform draws

A draw below `n` multiplies a random word with `n` and takes the high half of the product.  Where
the low half shows that the result may be one short, a second word decides on the carry.  The
number of words drawn therefore depends on the first word and the bound, and on nothing else.
-/

namespace MetricLoad.Random

variable {γ : Type} [Source γ]

/-- Draws a word of `width` bits. -/
def nextWord (width : Nat) (g : γ) : Nat × γ :=
  if width ≤ 32 then
    let (word, g) := Source.next32 g
    (word.toNat, g)
  else
    let (word, g) := Source.next64 g
    (word.toNat, g)

/-- Draws a number below `range` with words of `width` bits; for a positive `range` below
`2 ^ width`. -/
def drawBelow (width range : Nat) (g : γ) : Nat × γ :=
  let modulus := Nat.pow 2 width
  let (x, g) := nextWord width g
  let product := x * range
  let high := product / modulus
  let low := product % modulus
  if low > (modulus - range) % modulus then
    let (y, g) := nextWord width g
    let carry := if low + y * range / modulus ≥ modulus then 1 else 0
    (high + carry, g)
  else (high, g)

/-- Draws an index below a count of 64 bits.  Counts of 32 bits use the narrow words. -/
def drawIndex (count : Nat) (g : γ) : Nat × γ :=
  drawBelow (if count < UInt32.size then 32 else 64) count g

/-- Draws a number from 1 to `2 ^ 31 - 2`. -/
def drawIncrement (g : γ) : Nat × γ :=
  let (n, g) := drawBelow 32 2147483646 g
  (n + 1, g)

/-- Draws one of the `2 ^ 53` evenly spaced doubles from zero up to one. -/
def drawUnit (g : γ) : Float × γ :=
  let (word, g) := Source.next64 g
  ((word >>> 11).toFloat / 9007199254740992.0, g)

end MetricLoad.Random
