/-!
# The seed of a text

Seeds are derived from texts by the Adler-32 checksum of their bytes: two sums modulo 65521, the
second one of the running values of the first.
-/

namespace MetricLoad.Random

/-- The modulus of both sums. -/
def adlerModulus : Nat := 65521

/-- The two running sums after some bytes. -/
def adlerSums (bytes : List UInt8) : Nat × Nat :=
  bytes.foldl
    (fun (a, b) byte =>
      let a := (a + byte.toNat) % adlerModulus
      (a, (b + a) % adlerModulus))
    (1, 0)

/-- The Adler-32 checksum of some bytes. -/
def adler32 (bytes : List UInt8) : UInt32 :=
  let (a, b) := adlerSums bytes
  (b * 65536 + a).toUInt32

end MetricLoad.Random
