import MetricLoad.Decimal.Reading
import MetricLoad.Document.Fault
import MetricLoad.Text.Digit
import MetricLoad.Yaml.Tag
import MetricLoad.Yaml.Token

/-!
# What a scalar denotes

A plain scalar may stand for nothing, for a flag or for a number; otherwise it is a text.  Numbers
are decimal, or hexadecimal, octal or binary behind `0x`, `0o` and `0b`.  A decimal with a zero in
front of other digits is a text.  A quoted or block scalar is always a text, unless a tag of the
standard types asks for something else.
-/

namespace MetricLoad.Yaml

open MetricLoad.Document

/-- Whether a text stands for nothing. -/
def isNullText (s : String) : Bool :=
  s == "null" || s == "Null" || s == "NULL" || s == "~"

/-- The flag that a text stands for. -/
def flagOf? (s : String) : Option Bool :=
  if s == "true" || s == "True" || s == "TRUE" then some true
  else if s == "false" || s == "False" || s == "FALSE" then some false
  else none

/-- Whether a text has several digits the first of which is a zero. -/
def hasLeadingZero (s : List Char) : Bool :=
  match (Decimal.splitSign s).2 with
  | '0' :: d :: rest => (d :: rest).all fun c => (Text.digit? c).isSome
  | _ => false

/-- The value behind a mark of the radix. -/
def markedNumber? : List Char → Option Nat
  | '0' :: 'x' :: digits => Text.radixNumber? 16 digits
  | '0' :: 'o' :: digits => Text.radixNumber? 8 digits
  | '0' :: 'b' :: digits => Text.radixNumber? 2 digits
  | _ => none

/-- The magnitude of an integer without its sign. -/
def magnitude? (s : List Char) : Option Nat :=
  match markedNumber? s with
  | some n => some n
  | none => if hasLeadingZero s then none else Text.natural? s

/-- The unsigned integer that a text stands for. -/
def unsignedOf? (s : List Char) : Option Nat :=
  match s with
  | '+' :: rest => magnitude? rest
  | _ => magnitude? s

/-- The integer that a text stands for; its magnitude is at most one of 128 bits.  Behind a minus
sign even zero is a signed number. -/
def integerOf? (s : List Char) : Option Found :=
  match s with
  | '-' :: rest =>
    (magnitude? rest).bind fun n =>
      if n ≤ Nat.pow 2 127 then some (.signed (-(n : Int))) else none
  | _ => (unsignedOf? s).bind fun n => if n < Nat.pow 2 128 then some (.unsigned n) else none

/-- The double that a text stands for. -/
def realOf? (s : String) : Option Float :=
  let unsigned := match s.toList with
    | '+' :: rest => rest
    | s => s
  let name := String.ofList unsigned
  if name == ".inf" || name == ".Inf" || name == ".INF" then some (1.0 / 0.0)
  else if s == "-.inf" || s == "-.Inf" || s == "-.INF" then some (-(1.0 / 0.0))
  else if s == ".nan" || s == ".NaN" || s == ".NAN" then some (0.0 / 0.0)
  else match s.toList with
    | '+' :: '+' :: _ => none
    | '+' :: '-' :: _ => none
    | s => Decimal.float? s

/-- What a plain text stands for. -/
def plainMeaning (s : String) : Found :=
  if s.isEmpty || isNullText s then .nothing
  else match flagOf? s with
    | some b => .flag b
    | none =>
      match integerOf? s.toList with
      | some found => found
      | none =>
        if hasLeadingZero s.toList then .text s
        else match realOf? s with
          | some x => .real x.toBits
          | none => .text s

/-- What a scalar denotes.  A standard tag that does not fit the text makes it wrong. -/
def scalarMeaning (tag : Option Tag) (style : ScalarStyle) (s : String) :
    Except FaultKind Found :=
  let misfit := fun expected => Except.error (FaultKind.wrongValue (.text s) expected)
  let untagged := if style == .plain then plainMeaning s else .text s
  match tag with
  | none => .ok untagged
  | some t =>
    if t == .standard "bool" then
      match flagOf? s with
      | some b => .ok (.flag b)
      | none => misfit "a boolean"
    else if t == .standard "int" then
      match integerOf? s.toList with
      | some found => .ok found
      | none => misfit "an integer"
    else if t == .standard "float" then
      match realOf? s with
      | some x => .ok (.real x.toBits)
      | none => misfit "a float"
    else if t == .standard "null" then
      if isNullText s then .ok .nothing else misfit "null"
    else if t.isLocal then .ok untagged
    else .ok (.text s)

end MetricLoad.Yaml
