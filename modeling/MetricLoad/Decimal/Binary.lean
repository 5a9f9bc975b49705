/-!
# Exact values of 64-bit binary fractions

A finite double is a sign and a product `mantissa * 2 ^ exponent` of naturals and a power of two.
`Binary.ofBits?` reads that product off the bit pattern, so the decimal writers work in exact
arithmetic.  `compareScaled` compares such a product with `digits * 10 ^ place` by multiplying both
sides into the naturals.
-/

namespace MetricLoad.Decimal

/-- A power of two. -/
def twoTo (k : Nat) : Nat :=
  Nat.pow 2 k

/-- A power of ten. -/
def tenTo (k : Nat) : Nat :=
  Nat.pow 10 k

/-- The exact value `mantissa * 2 ^ exponent` of a finite double, with its sign. -/
structure Binary where
  /-- Whether the sign bit is set. -/
  negative : Bool
  /-- The integer factor. -/
  mantissa : Nat
  /-- The exponent of two. -/
  exponent : Int
  /-- Whether the next double below is only half as far away as the next one above. -/
  narrowBelow : Bool
  deriving Repr, DecidableEq

/-- The exact value behind a bit pattern, or none for infinities and NaNs. -/
def Binary.ofBits? (bits : UInt64) : Option Binary :=
  let negative := bits >>> 63 == 1
  let biased := ((bits >>> 52) &&& 0x7FF).toNat
  let fraction := (bits &&& 0xFFFFFFFFFFFFF).toNat
  if biased == 0x7FF then none
  else if biased == 0 then some ⟨negative, fraction, -1074, false⟩
  else some ⟨negative, twoTo 52 + fraction, (biased : Int) - 1075, fraction == 0 && biased != 1⟩

/-- Compares `a * 2 ^ e` with `n * 10 ^ p` exactly. -/
def compareScaled (a : Nat) (e : Int) (n : Nat) (p : Int) : Ordering :=
  compare (a * twoTo e.toNat * tenTo (-p).toNat) (n * tenTo p.toNat * twoTo (-e).toNat)

end MetricLoad.Decimal
