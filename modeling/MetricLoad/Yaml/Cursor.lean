import MetricLoad.Text.Utf8

/-!
# Positions in a YAML text

A cursor is the rest of a text together with the position where it begins.  Lines and columns count
characters, the index counts bytes; a carriage return with a line feed behind it is one line break.
-/

namespace MetricLoad.Yaml

/-- A position in a text, counted from zero. -/
structure Mark where
  /-- The number of bytes in front of it. -/
  index : Nat
  line : Nat
  column : Nat
  deriving DecidableEq, Repr, Inhabited

/-- The position in words, counted from one. -/
def Mark.text (m : Mark) : String :=
  "line " ++ toString (m.line + 1) ++ " column " ++ toString (m.column + 1)

/-- Whether a position is the start of the text. -/
def Mark.isStart (m : Mark) : Bool :=
  m.line == 0 && m.column == 0

/-- Whether a character ends a line. -/
def isBreak (c : Char) : Bool :=
  c == '\n' || c == '\r' || c == '\x85' || c == '\u2028' || c == '\u2029'

/-- Whether a character is a space or a tab. -/
def isBlank (c : Char) : Bool :=
  c == ' ' || c == '\t'

/-- Whether a character may be part of an anchor or of a tag handle. -/
def isWordChar (c : Char) : Bool :=
  ('0' ≤ c && c ≤ '9') || ('A' ≤ c && c ≤ 'Z') || ('a' ≤ c && c ≤ 'z') || c == '_' || c == '-'

/-- The rest of a text and where it begins. -/
structure Cursor where
  rest : List Char
  mark : Mark
  deriving Repr, Inhabited

namespace Cursor

/-- The next character. -/
def peek? (c : Cursor) : Option Char :=
  c.rest.head?

/-- Whether the next character is the given one. -/
def startsWith (c : Cursor) (x : Char) : Bool :=
  c.rest.head? == some x

/-- Whether a place holds a blank, a line break or the end of the text. -/
def isGapAt (c : Cursor) (offset : Nat) : Bool :=
  match c.rest.drop offset with
  | [] => true
  | x :: _ => isBlank x || isBreak x

/-- Whether the cursor stands at a line break or at the end. -/
def atLineEnd (c : Cursor) : Bool :=
  match c.rest with
  | [] => true
  | x :: _ => isBreak x

/-- Moves over some characters that are no line breaks. -/
def skip (c : Cursor) (count : Nat) : Cursor :=
  let passed := c.rest.take count
  ⟨c.rest.drop count,
    ⟨c.mark.index + Text.byteCount passed, c.mark.line, c.mark.column + passed.length⟩⟩

/-- Splits off the leading characters of a class without line breaks. -/
def span (p : Char → Bool) (c : Cursor) : List Char × Cursor :=
  let taken := c.rest.takeWhile p
  (taken, ⟨c.rest.dropWhile p,
    ⟨c.mark.index + Text.byteCount taken, c.mark.line, c.mark.column + taken.length⟩⟩)

/-- Moves over the leading characters of a class without line breaks. -/
def skipWhile (p : Char → Bool) (c : Cursor) : Cursor :=
  (c.span p).2

/-- Moves over a comment, if one begins here. -/
def skipComment (c : Cursor) : Cursor :=
  if c.startsWith '#' then c.skipWhile fun x => !isBreak x else c

/-- Reads a line break: the characters it stands for and the cursor behind it. -/
def readBreak (c : Cursor) : List Char × Cursor :=
  let behind := fun (rest : List Char) (bytes : Nat) =>
    Cursor.mk rest ⟨c.mark.index + bytes, c.mark.line + 1, 0⟩
  match c.rest with
  | '\r' :: '\n' :: rest => (['\n'], behind rest 2)
  | x :: rest =>
    if x == '\u2028' || x == '\u2029' then ([x], behind rest x.utf8Size)
    else if isBreak x then (['\n'], behind rest x.utf8Size)
    else ([], c)
  | [] => ([], c)

/-- Moves over a line break, if the cursor stands at one. -/
def skipBreak (c : Cursor) : Cursor :=
  c.readBreak.2

/-- Whether a document marker of three equal characters stands here at the start of a line. -/
def atMarker (c : Cursor) (x : Char) : Bool :=
  c.mark.column == 0 && c.rest.take 3 == [x, x, x] && c.isGapAt 3

/-- Whether a document begins or ends here. -/
def atDocumentMarker (c : Cursor) : Bool :=
  c.atMarker '-' || c.atMarker '.'

end Cursor
end MetricLoad.Yaml
