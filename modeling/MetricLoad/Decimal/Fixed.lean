import MetricLoad.Decimal.Binary

/-!
# Decimals with a fixed number of places

`roundDiv` divides naturals and rounds to the nearest whole number, a half going to the even
neighbour.  `fixed` writes the exact value of a double with a given number of places by that rule.
-/

namespace MetricLoad.Decimal

/-- The quotient rounded to the nearest whole number; a half goes to the even neighbour. -/
def roundDiv (num den : Nat) : Nat :=
  let q := num / den
  let r := num % den
  if 2 * r > den || (2 * r == den && q % 2 == 1) then q + 1 else q

/-- The decimal digits of a number, padded with zeros on the left to a least width. -/
def padded (width n : Nat) : String :=
  let digits := toString n
  String.ofList (List.replicate (width - digits.length) '0') ++ digits

/-- Writes the exact value of a finite double with `places` digits after the point. -/
def Binary.fixed (places : Nat) (x : Binary) : String :=
  let scaled := roundDiv (x.mantissa * twoTo x.exponent.toNat * tenTo places)
    (twoTo (-x.exponent).toNat)
  (if x.negative then "-" else "") ++ toString (scaled / tenTo places) ++ "." ++
    padded places (scaled % tenTo places)

/-- Writes a double with `places` digits after the point. -/
def fixed (places : Nat) (x : Float) : String :=
  match Binary.ofBits? x.toBits with
  | some b => b.fixed places
  | none => if x.isNaN then "NaN" else if x < 0 then "-inf" else "inf"

end MetricLoad.Decimal
