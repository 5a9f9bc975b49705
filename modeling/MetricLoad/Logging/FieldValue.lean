import MetricLoad.Decimal.Reading
import MetricLoad.Decimal.Shortest
import MetricLoad.Pattern

/-!
# Values of fields in filters

The value that a field must have is a flag, a whole number, a number with a fraction, or else a
pattern that the value must match.  Of numbers the smallest kind that fits counts, and numbers of
different kinds differ even where they denote the same.
-/

namespace MetricLoad.Logging

/-- The value that a field must have. -/
inductive FieldValue
  | flag (value : Bool)
  | unsigned (value : Nat)
  | signed (value : Int)
  /-- A number with a fraction, as the bits of a double. -/
  | real (bits : UInt64)
  | notANumber
  | pattern (text : String)
  deriving DecidableEq, Repr

namespace FieldValue

/-- The unsigned 64-bit number that a text is. -/
def unsigned? (s : List Char) : Option FieldValue :=
  (Text.unsigned? s).bind fun n => if n < UInt64.size then some (unsigned n) else none

/-- The negative 64-bit number that a text is; zero may be written as one. -/
def signed? : List Char → Option FieldValue
  | '-' :: digits =>
    (Text.natural? digits).bind fun n =>
      if n ≤ 9223372036854775808 then some (signed (-(n : Int))) else none
  | _ => none

/-- The number with a fraction or an exponent that a text is. -/
def real? (s : List Char) : Option FieldValue :=
  let (negative, rest) := Decimal.splitSign s
  let withSign := fun (x : Float) => real (if negative then -x else x).toBits
  match (String.ofList rest).map Char.toLower with
  | "nan" => some notANumber
  | "inf" | "infinity" => some (withSign (1.0 / 0.0))
  | _ => (Decimal.unsignedFloat? rest).map withSign

/-- The value that a text stands for, unless it is not even a pattern. -/
def ofText? (s : String) : Option FieldValue :=
  if s == "true" then some (flag true)
  else if s == "false" then some (flag false)
  else ((unsigned? s.toList).or ((signed? s.toList).or (real? s.toList))).or
    (if Pattern.isPattern s then some (pattern s) else none)

/-- Numbers in values have no exponent. -/
def numberLayout : Decimal.Layout := ⟨none, none, false⟩

/-- The text of a value; numbers lose what does not change them. -/
def text : FieldValue → String
  | flag value => if value then "true" else "false"
  | unsigned value => toString value
  | signed value => toString value
  | real bits =>
    let x := Float.ofBits bits
    if x.isInf then (if x < 0.0 then "-inf" else "inf") else numberLayout.float x
  | notANumber => "NaN"
  | pattern text => text

/-- Whether two values are the same.  The two zeros with a fraction are. -/
def same : FieldValue → FieldValue → Bool
  | real a, real b => Float.ofBits a == Float.ofBits b
  | a, b => a == b

end FieldValue
end MetricLoad.Logging
