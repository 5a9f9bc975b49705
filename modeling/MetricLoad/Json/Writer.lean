import MetricLoad.Json
import MetricLoad.Decimal.Shortest

/-!
# Writing JSON texts

A value is written without blanks.  Quotes, backslashes and control characters of strings are
escaped and all other characters stand for themselves.  Doubles are written with the fewest digits
that read back; a number that is no double of finite size is written as `null`.
-/

namespace MetricLoad.Json

/-- Numbers have a digit after the point; an exponent is written from `10 ^ 16` on and below
`10 ^ -5`. -/
def numberLayout : Decimal.Layout := ⟨some 16, some 5, true⟩

/-- A digit of a hexadecimal number. -/
def hexChar (n : Nat) : Char :=
  Char.ofNat (if n < 10 then 48 + n else 87 + n)

/-- The written form of a character inside a string. -/
def escapeChar (c : Char) : List Char :=
  if c == '"' then ['\\', '"']
  else if c == '\\' then ['\\', '\\']
  else if c == '\n' then ['\\', 'n']
  else if c == '\r' then ['\\', 'r']
  else if c == '\t' then ['\\', 't']
  else if c == '\x08' then ['\\', 'b']
  else if c == '\x0c' then ['\\', 'f']
  else if c.toNat < 0x20 then ['\\', 'u', '0', '0', hexChar (c.toNat / 16), hexChar (c.toNat % 16)]
  else [c]

/-- A string with its quotes. -/
def quoted (s : String) : String :=
  "\"" ++ String.ofList (s.toList.flatMap escapeChar) ++ "\""

mutual

/-- The text of a value. -/
def render : Json → String
  | .null => "null"
  | .bool value => if value then "true" else "false"
  | .integer value => toString value
  | .real bits =>
    let x := Float.ofBits bits
    if x.isFinite then numberLayout.float x else "null"
  | .text value => quoted value
  | .array items => "[" ++ ",".intercalate (renderItems items) ++ "]"
  | .object members => "\x7b" ++ ",".intercalate (renderMembers members) ++ "\x7d"
  | .unreadable => "null"

/-- The texts of the items of an array. -/
def renderItems : List Json → List String
  | [] => []
  | item :: rest => render item :: renderItems rest

/-- The texts of the members of an object. -/
def renderMembers : List (String × Json) → List String
  | [] => []
  | (name, value) :: rest => (quoted name ++ ":" ++ render value) :: renderMembers rest

end

end MetricLoad.Json
