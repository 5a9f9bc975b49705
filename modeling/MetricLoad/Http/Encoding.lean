import MetricLoad.Network.Address
import MetricLoad.Text.Utf8

/-!
# Encoded texts in requests

Form bodies and request paths hold few characters as they are; others are written as the hexadecimal
numbers of their bytes.  A path is cut into segments at slashes of both directions; a segment of one
point is dropped and one of two points drops the segment before it.
-/

namespace MetricLoad.Http

/-- A hexadecimal digit in upper case. -/
def upperHex (n : Nat) : Char :=
  Char.ofNat (if n < 10 then 48 + n else 55 + n)

/-- A byte as a percent sign and two digits. -/
def percentByte (b : UInt8) : List Char :=
  ['%', upperHex (b.toNat / 16), upperHex (b.toNat % 16)]

/-- A character by its bytes. -/
def percentChar (c : Char) : List Char :=
  (Text.bytes (toString c)).flatMap percentByte

/-- Whether a character stands for itself in a form. -/
def isFormChar (c : Char) : Bool :=
  c.isAlphanum || c == '*' || c == '-' || c == '.' || c == '_'

/-- The form of a character in a form body; a space is a plus sign. -/
def formChar (c : Char) : List Char :=
  if isFormChar c then [c] else if c == ' ' then ['+'] else percentChar c

/-- A text in a form body. -/
def formText (s : String) : String :=
  String.ofList (s.toList.flatMap formChar)

/-- A form body: names and values joined by equals signs and ampersands. -/
def formBody (entries : List (String × String)) : String :=
  "&".intercalate (entries.map fun (name, value) => formText name ++ "=" ++ formText value)

/-- Whether a character is removed before a location is read. -/
def isDroppedChar (c : Char) : Bool :=
  c == '\t' || c == '\n' || c == '\r'

/-- Whether a character is written by its bytes in every part of a location. -/
def isUnsafeChar (c : Char) : Bool :=
  c.toNat < 0x21 || 0x7E < c.toNat || c == '"' || c == '<' || c == '>'

/-- The form of a character in a path. -/
def pathChar (c : Char) : List Char :=
  if isUnsafeChar c || c == '\x60' || c == '\x7b' || c == '\x7d' then percentChar c else [c]

/-- The form of a character in the query part of a location. -/
def queryChar (c : Char) : List Char :=
  if isUnsafeChar c || c == '\'' then percentChar c else [c]

/-- A segment with encoded points written out. -/
def plainPoints : List Char → List Char
  | '%' :: '2' :: x :: rest =>
    if x == 'e' || x == 'E' then '.' :: plainPoints rest else '%' :: '2' :: plainPoints (x :: rest)
  | c :: rest => c :: plainPoints rest
  | [] => []

/-- Drops segments of points from a path; `kept` holds the segments before, the last one first. -/
def settleSegments (kept : List (List Char)) : List (List Char) → List (List Char)
  | [] => kept.reverse
  | segment :: rest =>
    let points := plainPoints segment
    let isLast := rest.isEmpty
    if points == ['.'] then settleSegments (if isLast then [] :: kept else kept) rest
    else if points == ['.', '.'] then
      settleSegments (if isLast then [] :: kept.drop 1 else kept.drop 1) rest
    else settleSegments (segment :: kept) rest

/-- The path and query part of a request for the text behind the authority of a location, which
begins with a slash. -/
def requestPath (s : String) : String :=
  let chars := s.toList.filter fun c => !isDroppedChar c
  let beforeFragment := chars.takeWhile (· != '#')
  let path := (beforeFragment.takeWhile (· != '?')).map fun c => if c == '\\' then '/' else c
  let query := beforeFragment.dropWhile (· != '?')
  let segments := HostAddress.splitAt '/' (path.drop 1)
  let written := (settleSegments [] segments).map fun segment => segment.flatMap pathChar
  let queryText := match query with
    | [] => []
    | mark :: rest => mark :: rest.flatMap queryChar
  String.ofList ('/' :: (['/'].intercalate written) ++ queryText)

end MetricLoad.Http
