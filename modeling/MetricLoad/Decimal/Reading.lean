import MetricLoad.Decimal.Binary
import MetricLoad.Text.Digit

/-!
# Reading decimal numbers

A decimal number has digits with at most one point among or around them and an optional exponent of
ten.  Its value as a double is the nearest one; numbers beyond the doubles become infinite and tiny
ones zero.
-/

namespace MetricLoad.Decimal

open MetricLoad.Text (digit? natural?)

/-- A sign and the text after it. -/
def splitSign : List Char → Bool × List Char
  | '-' :: rest => (true, rest)
  | '+' :: rest => (false, rest)
  | s => (false, s)

/-- The exponent written behind the digits; zero when nothing is written. -/
def exponent? : List Char → Option Int
  | [] => some 0
  | c :: rest =>
    if c == 'e' || c == 'E' then
      let (negative, digits) := splitSign rest
      (natural? digits).map fun n => if negative then -(n : Int) else n
    else none

/-- The double nearest to `digits * 10 ^ place`, where the number `digits` has `count` digits.  What
is far beyond the doubles needs no division. -/
def nearest (digits count : Nat) (place : Int) : Float :=
  if digits == 0 || place + count < -400 then 0.0
  else if place + count > 400 then 1.0 / 0.0
  else if place < 0 then Float.ofScientific digits true place.natAbs
  else Float.ofScientific digits false place.natAbs

/-- The value of an unsigned decimal number. -/
def unsignedFloat? (s : List Char) : Option Float :=
  let isDigit := fun c => (digit? c).isSome
  let whole := s.takeWhile isDigit
  let (fraction, rest) := match s.dropWhile isDigit with
    | '.' :: rest => (rest.takeWhile isDigit, rest.dropWhile isDigit)
    | rest => ([], rest)
  let digits := whole ++ fraction
  (natural? digits).bind fun n =>
    (exponent? rest).map fun exponent =>
      let count := (digits.dropWhile (· == '0')).length
      nearest n count (exponent - (fraction.length : Int))

/-- The value of a finite decimal number with an optional sign. -/
def float? (s : List Char) : Option Float :=
  let (negative, rest) := splitSign s
  (unsignedFloat? rest).bind fun x =>
    if x.isInf then none else some (if negative then -x else x)

end MetricLoad.Decimal
