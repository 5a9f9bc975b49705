import MetricLoad.Text.Hidden

/-!
# Quoted texts

A text in a message stands between double quotes.  Quotes and backslashes have a backslash in front,
and four control characters have escapes of one letter; any other character without a visible form
is written by its number in hexadecimal.
-/

namespace MetricLoad.Text

/-- The hexadecimal digits of a number. -/
def hexText (n : Nat) : List Char :=
  Nat.toDigits 16 n

/-- The form of a character between double quotes. -/
def quotedChar (c : Char) : List Char :=
  if c = '\\' then ['\\', '\\']
  else if c = '"' then ['\\', '"']
  else if c = '\n' then ['\\', 'n']
  else if c = '\r' then ['\\', 'r']
  else if c = '\t' then ['\\', 't']
  else if c = '\x00' then ['\\', '0']
  else if isHidden c then ['\\', 'u', '\x7b'] ++ hexText c.toNat ++ ['\x7d']
  else [c]

/-- A text between double quotes. -/
def quoted (s : String) : String :=
  String.ofList ('"' :: s.toList.flatMap quotedChar ++ ['"'])

end MetricLoad.Text
