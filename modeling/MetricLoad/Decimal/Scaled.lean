import MetricLoad.Decimal.Shortest

/-!
# Digits of a double by scaled words

The value of a double and the two ends of its rounding interval are multiplied by a power of ten,
each product being rounded to 64 bits and the interval drawn in by one unit on both sides.  The
digits of the upper end are then taken until what is left of it lies within the interval.  The
last digit is moved towards the value, except where nine or more digits were taken behind the
point of the scaled number.  The result always reads back; it nearly always has as few digits as
possible, and its last digit may be off the nearest one.
-/

namespace MetricLoad.Decimal

/-- The number `word * 2 ^ exponent`. -/
structure ScaledWord where
  word : Nat
  exponent : Int
  deriving Repr, DecidableEq

namespace ScaledWord

/-- The same number with 64 significant bits. -/
def normalized (x : ScaledWord) : ScaledWord :=
  let shift := 63 - Nat.log2 x.word
  ⟨x.word * twoTo shift, x.exponent - shift⟩

/-- The product, rounded to 64 bits. -/
def times (x y : ScaledWord) : ScaledWord :=
  ⟨(x.word * y.word + twoTo 63) / twoTo 64, x.exponent + y.exponent + 64⟩

/-- A power of ten, rounded to 64 bits. -/
def powerOfTen (k : Int) : ScaledWord :=
  let n := tenTo k.natAbs
  let log := Nat.log2 n
  if 0 ≤ k then
    if log ≤ 63 then ⟨n * twoTo (63 - log), (log : Int) - 63⟩
    else ⟨(n + twoTo (log - 64)) / twoTo (log - 63), (log : Int) - 63⟩
  else ⟨(2 * twoTo (64 + log) + n) / (2 * n), -((64 + log : Nat) : Int)⟩

end ScaledWord

/-- The exponent of the power of ten for a binary exponent: one of `-348, -340, …, 340` that leaves
a scaled number with its point behind at most nine digits. -/
def scalingExponent (e : Int) : Int :=
  let estimate := (-61 - e) * 30102999566398114 + 347 * tenTo 17
  let k := -Int.fdiv (-estimate) (tenTo 17)
  (k / 8 + 1) * 8 - 348

/-- The digits taken so far and how far they are below the upper end. -/
structure DigitRun where
  digits : Nat
  /-- The power of ten of the last digit. -/
  place : Int
  /-- What is left of the upper end. -/
  rest : Nat
  /-- The width of the interval. -/
  width : Nat
  /-- The weight of the last digit. -/
  unit : Nat
  /-- The distance from the upper end to the value. -/
  distance : Nat

/-- Moves the last digit down as long as that brings it nearer to the value and keeps it within the
interval. -/
def DigitRun.settle : Nat → DigitRun → Scientific
  | 0, r => ⟨r.digits, r.place⟩
  | steps + 1, r =>
    let next := r.rest + r.unit
    if r.rest < r.distance && next ≤ r.width &&
        (next < r.distance || r.distance - r.rest > next - r.distance) then
      DigitRun.settle steps { r with digits := r.digits - 1, rest := next }
    else ⟨r.digits, r.place⟩

/-- Takes digits behind the point. -/
def fractionDigits (one width distance : Nat) (place : Int) : Nat → Nat → Nat → Nat → Scientific
  | 0, _, _, digits => ⟨digits, place⟩
  | fuel + 1, taken, left, digits =>
    let taken := taken + 1
    let scale := tenTo taken
    let left := left * 10
    let digits := 10 * digits + left / one
    let left := left % one
    if left < width * scale then
      DigitRun.settle 10
        ⟨digits, place - taken, left, width * scale, one, if taken < 9 then distance * scale else 0⟩
    else fractionDigits one width distance place fuel taken left digits

/-- Takes digits in front of the point, `count` of which are left in `whole`. -/
def wholeDigits (one width distance fraction : Nat) (place : Int) : Nat → Nat → Nat → Scientific
  | 0, _, digits => fractionDigits one width distance place 20 0 fraction digits
  | count + 1, whole, digits =>
    let unit := tenTo count
    let digits := 10 * digits + whole / unit
    let whole := whole % unit
    let rest := whole * one + fraction
    if rest ≤ width then
      DigitRun.settle 10 ⟨digits, place + count, rest, width, unit * one, distance⟩
    else wholeDigits one width distance fraction place count whole digits

/-- The digits of a positive double. -/
def Binary.scaledDigits (x : Binary) : Scientific :=
  let upper := ScaledWord.normalized ⟨2 * x.mantissa + 1, x.exponent - 1⟩
  let below : ScaledWord :=
    if x.mantissa == twoTo 52 then ⟨4 * x.mantissa - 1, x.exponent - 2⟩
    else ⟨2 * x.mantissa - 1, x.exponent - 1⟩
  let lower : ScaledWord :=
    ⟨below.word * twoTo (below.exponent - upper.exponent).toNat, upper.exponent⟩
  let k := scalingExponent upper.exponent
  let power := ScaledWord.powerOfTen k
  let value := (ScaledWord.normalized ⟨x.mantissa, x.exponent⟩).times power
  let top := (upper.times power).word - 1
  let bottom := (lower.times power).word + 1
  let one := twoTo (-value.exponent).toNat
  let whole := top / one
  wholeDigits one (top - bottom) (top - value.word) (top % one) (-k) (toString whole).length whole 0

/-- Writes a double with the digits of its scaled words. -/
def Layout.scaledFloat (l : Layout) (x : Float) : String :=
  match Binary.ofBits? x.toBits with
  | some b =>
    (if b.negative then "-" else "") ++
      l.write (if b.mantissa == 0 then ⟨0, 0⟩ else b.scaledDigits)
  | none => if x.isNaN then "NaN" else if x < 0 then "-inf" else "inf"

end MetricLoad.Decimal
