import MetricLoad.Decimal.Binary

/-!
# The shortest decimal of a double

A double stands for every real number that rounds to it.  `shortest` gives the decimal with the
fewest digits among those numbers, and of two such decimals the nearer one.  For each digit count
the two neighbours of the value on the decimal grid are tested against the ends of the rounding
interval in exact arithmetic; the first grid with a hit wins.

`Layout` holds the decisions of an output format: up to which power of ten a number is written
positionally, and whether a whole number keeps a digit after the point.
-/

namespace MetricLoad.Decimal

/-- The number `digits * 10 ^ place`. -/
structure Scientific where
  /-- The decimal digits as one natural number. -/
  digits : Nat
  /-- The power of ten of the last digit. -/
  place : Int
  deriving Repr, DecidableEq

/-- Whether a decimal rounds to the given double.  The ends of the interval belong to it exactly
when the mantissa is even. -/
def Binary.readsBack (x : Binary) (n : Nat) (p : Int) : Bool :=
  let low := 4 * x.mantissa - (if x.narrowBelow then 1 else 2)
  let high := 4 * x.mantissa + 2
  let closed := x.mantissa % 2 == 0
  let below := compareScaled low (x.exponent - 2) n p
  let above := compareScaled high (x.exponent - 2) n p
  (below == .lt || (closed && below == .eq)) && (above == .gt || (closed && above == .eq))

/-- The largest `n` with `n * 10 ^ p ≤ mantissa * 2 ^ exponent`. -/
def Binary.floorAt (x : Binary) (p : Int) : Nat :=
  (x.mantissa * twoTo x.exponent.toNat * tenTo (-p).toNat) /
    (tenTo p.toNat * twoTo (-x.exponent).toNat)

/-- The least `k` with value below `10 ^ k`, searched upwards from a lower bound. -/
def Binary.scaleFrom (x : Binary) : Nat → Int → Int
  | 0, k => k
  | fuel + 1, k =>
    if compareScaled x.mantissa x.exponent 1 k == .lt then k else x.scaleFrom fuel (k + 1)

/-- The least `k` with value below `10 ^ k`.  The start is at most one below the answer's estimate
from the binary logarithm, and five steps reach it. -/
def Binary.scale (x : Binary) : Int :=
  let log2 := (Nat.log2 x.mantissa : Int) + x.exponent
  x.scaleFrom 5 (log2 * 30103 / 100000 - 1)

/-- The better neighbour of the value on the grid `10 ^ p`, if one of them reads back. -/
def Binary.onGrid (x : Binary) (p : Int) : Option Scientific :=
  let n := x.floorAt p
  match x.readsBack n p, x.readsBack (n + 1) p with
  | true, true =>
    let nearer := compareScaled (2 * x.mantissa) x.exponent (2 * n + 1) p
    if nearer == .gt || (nearer == .eq && n % 2 == 1) then some ⟨n + 1, p⟩ else some ⟨n, p⟩
  | true, false => some ⟨n, p⟩
  | false, true => some ⟨n + 1, p⟩
  | false, false => none

/-- Moves trailing zeros of the digits into the power of ten. -/
def Scientific.strip : Nat → Scientific → Scientific
  | 0, s => s
  | fuel + 1, s =>
    if s.digits != 0 && s.digits % 10 == 0 then
      Scientific.strip fuel ⟨s.digits / 10, s.place + 1⟩
    else s

/-- The decimal with the fewest digits that rounds to the given value. -/
def Binary.shortest (x : Binary) : Scientific :=
  if x.mantissa == 0 then ⟨0, 0⟩
  else
    let k := x.scale
    let hits := (List.range 17).filterMap fun count => x.onGrid (k - (count + 1 : Nat))
    match hits with
    | best :: _ => best.strip 20
    | [] => Scientific.strip 1200
        ⟨x.mantissa * twoTo x.exponent.toNat * Nat.pow 5 (-x.exponent).toNat,
          -((-x.exponent).toNat : Int)⟩

/-- The decisions of a textual form of numbers. -/
structure Layout where
  /-- The greatest count of digits before the point that is still written positionally. -/
  greatest : Option Nat
  /-- The count of zeros right after the point from which an exponent is written. -/
  zerosLimit : Option Nat
  /-- Whether a whole number is followed by a point and a zero. -/
  keepsFraction : Bool

/-- `count` zeros. -/
def zeros (count : Nat) : String :=
  String.ofList (List.replicate count '0')

/-- Writes a non-negative decimal in the given layout. -/
def Layout.write (l : Layout) (s : Scientific) : String :=
  let digits := toString s.digits
  let point : Int := if s.digits == 0 then 1 else (digits.length : Int) + s.place
  let withinGreatest := l.greatest.all fun g => point ≤ (g : Int)
  let withinZeros := l.zerosLimit.all fun z => -(z : Int) < point
  if s.digits == 0 then (if l.keepsFraction then "0.0" else "0")
  else if 0 ≤ s.place && withinGreatest then
    digits ++ zeros s.place.toNat ++ (if l.keepsFraction then ".0" else "")
  else if 0 < point && withinGreatest then
    String.ofList (digits.toList.take point.toNat) ++ "." ++
      String.ofList (digits.toList.drop point.toNat)
  else if point ≤ 0 && withinZeros then
    "0." ++ zeros (-point).toNat ++ digits
  else
    let whole := String.ofList (digits.toList.take 1)
    let fraction := String.ofList (digits.toList.drop 1)
    let exponent := "e" ++ toString (point - 1)
    if fraction.isEmpty then whole ++ exponent else whole ++ "." ++ fraction ++ exponent

/-- Writes a double with the fewest digits that read back. -/
def Layout.float (l : Layout) (x : Float) : String :=
  match Binary.ofBits? x.toBits with
  | some b => (if b.negative then "-" else "") ++ l.write b.shortest
  | none => if x.isNaN then "NaN" else if x < 0 then "-inf" else "inf"

end MetricLoad.Decimal
