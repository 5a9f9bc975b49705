import MetricLoad.Series

/-!
# Label matchers

A matcher compares a label with a quoted text.  Inside the quotes a backslash takes the next
character literally, except that `\n` is a line feed; `quote` escapes backslashes, quotes and line
feeds and leaves everything else as it is.  `scanLiteral?` is the reader of such a literal: it stops
at the first unescaped quote and refuses a raw line feed.
-/

namespace MetricLoad

/-- How a matcher compares. -/
inductive MatchOperator
  | equal
  | regex
  deriving DecidableEq, Repr

/-- The text of an operator. -/
def MatchOperator.text : MatchOperator → String
  | .equal => "="
  | .regex => "=~"

/-- A comparison of a label with a text. -/
structure Matcher where
  name : String
  operator : MatchOperator
  value : String
  deriving DecidableEq, Repr

namespace Matcher

/-- The form of a character inside a literal. -/
def escapeChar (c : Char) : List Char :=
  if c = '\\' then ['\\', '\\']
  else if c = '"' then ['\\', '"']
  else if c = '\n' then ['\\', 'n']
  else [c]

/-- A text as a quoted literal. -/
def quote (value : List Char) : List Char :=
  '"' :: value.flatMap escapeChar ++ ['"']

/-- Reads the inside of a literal up to its closing quote. -/
def scanInside? : List Char → Option (List Char × List Char)
  | [] => none
  | '"' :: rest => some ([], rest)
  | '\n' :: _ => none
  | '\\' :: c :: rest =>
    (scanInside? rest).map fun (value, rest) => ((if c = 'n' then '\n' else c) :: value, rest)
  | '\\' :: [] => none
  | c :: rest => (scanInside? rest).map fun (value, rest) => (c :: value, rest)

/-- Reads a literal: its value and the characters behind it. -/
def scanLiteral? : List Char → Option (List Char × List Char)
  | '"' :: rest => scanInside? rest
  | _ => none

/-- The text of a matcher. -/
def text (m : Matcher) : String :=
  m.name ++ m.operator.text ++ String.ofList (quote m.value.toList)

/-- The text of a list of matchers. -/
def listText (ms : List Matcher) : String :=
  ",".intercalate (ms.map text)

end Matcher
end MetricLoad
