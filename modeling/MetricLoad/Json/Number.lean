import MetricLoad.Json

/-!
# Numbers of JSON texts

A number literal is kept as its digits until its value is taken.  Whole numbers that fit 64 bits are
exact.  Every other literal becomes a double: as many leading digits as fit 64 bits form the
significand, which is then scaled once by a power of ten.  A result beyond the doubles has no value.
-/

namespace MetricLoad.Json

/-- The parts of a number literal. -/
structure NumberLiteral where
  negative : Bool
  whole : List Nat
  /-- The digits behind the point, if there is a point. -/
  fraction : Option (List Nat)
  exponent : Option Int

/-- Ten to a small power as a double. -/
def powerOfTen (n : Nat) : Float :=
  Float.ofScientific 1 false n

/-- Scales a significand by a power of ten, in steps of at most `10 ^ 308`. -/
def scaleWithin : Nat → Float → Int → Option Float
  | 0, x, _ => some x
  | fuel + 1, x, exponent =>
    if exponent.natAbs ≤ 308 then
      if 0 ≤ exponent then
        let scaled := x * powerOfTen exponent.natAbs
        if scaled.isInf then none else some scaled
      else some (x / powerOfTen exponent.natAbs)
    else if x == 0 then some x
    else if 0 ≤ exponent then none
    else scaleWithin fuel (x / powerOfTen 308) (exponent + 308)

/-- Adds digits to a significand as long as it fits 64 bits.  Gives the significand, the number of
digits used and whether one did not fit. -/
def absorb (significand : Nat) : List Nat → Nat × Nat × Bool
  | [] => (significand, 0, false)
  | d :: rest =>
    if 10 * significand + d < UInt64.size then
      let (final, used, overflow) := absorb (10 * significand + d) rest
      (final, used + 1, overflow)
    else (significand, 0, true)

/-- The double closest to the literal's leading digits, scaled. -/
def NumberLiteral.float? (n : NumberLiteral) : Option Float :=
  let (wholePart, wholeUsed, _) := absorb 0 n.whole
  let skipped : Int := ((n.whole.length - wholeUsed : Nat) : Int)
  let (significand, fractionUsed, _) := absorb wholePart (n.fraction.getD [])
  let exponent := skipped - (fractionUsed : Int) + n.exponent.getD 0
  (scaleWithin 8 significand.toUInt64.toFloat exponent).map fun x => if n.negative then -x else x

/-- The value of a literal. -/
def NumberLiteral.value (n : NumberLiteral) : Json :=
  let real := match n.float? with
    | some x => Json.real x.toBits
    | none => .unreadable
  if n.fraction.isSome || n.exponent.isSome then real
  else
    let (whole, _, overflow) := absorb 0 n.whole
    if overflow then real
    else if !n.negative then .integer whole
    else if whole == 0 || whole > 9223372036854775808 then real
    else .integer (-(whole : Int))

end MetricLoad.Json
