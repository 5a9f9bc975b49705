import MetricLoad.Json
import MetricLoad.Json.Number
import MetricLoad.Text.Digit
import MetricLoad.Text.Split
import MetricLoad.Text.Utf8

/-!
# Reading JSON texts

A text is one value with blanks around it.  Names and strings are read with their escapes; a string
with half of a surrogate pair has the form of a string but is unreadable.  Nesting is not limited
here: the reader of a schema decides which parts it looks into and how deep they may be.

A text comes as bytes that have not been decoded, and it is read with its holes.  Inside a string a
hole does what half of a surrogate pair does, since the end of the string is found without
decoding it: whoever skips the string does not notice.  Anywhere else a hole is no JSON.
-/

namespace MetricLoad.Json

open MetricLoad.Text (Glyph digit?)

/-- Whether a character may stand between the parts of a JSON text. -/
def isGap (c : Char) : Bool :=
  c == ' ' || c == '\n' || c == '\t' || c == '\r'

/-- The text after leading blanks. -/
def skipGap (s : List Glyph) : List Glyph :=
  s.dropWhile (·.any isGap)

/-- The number written by four hexadecimal digits. -/
def hexUnit? : List Glyph → Option (Nat × List Glyph)
  | a :: b :: c :: d :: rest => do
    let a ← a.bind Text.hexDigit?
    let b ← b.bind Text.hexDigit?
    let c ← c.bind Text.hexDigit?
    let d ← d.bind Text.hexDigit?
    return (((a * 16 + b) * 16 + c) * 16 + d, rest)
  | _ => none

/-- The character that a single escape letter stands for. -/
def simpleEscape? (c : Char) : Option Char :=
  if c == '"' || c == '\\' || c == '/' then some c
  else if c == 'b' then some '\x08'
  else if c == 'f' then some '\x0c'
  else if c == 'n' then some '\n'
  else if c == 'r' then some '\r'
  else if c == 't' then some '\t'
  else none

/-- One step inside a string. -/
inductive TextStep
  | done (rest : List Glyph)
  | char (c : Char) (rest : List Glyph)
  | damaged (rest : List Glyph)
  | malformed

/-- Reads the next character of a string. -/
def textStep : List Glyph → TextStep
  | [] => .malformed
  | none :: rest => .damaged rest
  | some '"' :: rest => .done rest
  | some '\\' :: some 'u' :: rest =>
    match hexUnit? rest with
    | none => .malformed
    | some (unit, rest) =>
      if 0xD800 ≤ unit && unit < 0xDC00 then
        match rest with
        | some '\\' :: some 'u' :: more =>
          match hexUnit? more with
          | none => .malformed
          | some (low, more) =>
            if 0xDC00 ≤ low && low < 0xE000 then
              .char (Char.ofNat (0x10000 + (unit - 0xD800) * 0x400 + (low - 0xDC00))) more
            else .damaged rest
        | _ => .damaged rest
      else if 0xDC00 ≤ unit && unit < 0xE000 then .damaged rest
      else .char (Char.ofNat unit) rest
  | some '\\' :: some c :: rest =>
    match simpleEscape? c with
    | some c => .char c rest
    | none => .malformed
  | some '\\' :: _ => .malformed
  | some c :: rest => if c.toNat < 0x20 then .malformed else .char c rest

/-- Reads a string after its opening quote: its characters in reverse, unless damaged, and what
follows. -/
def readTextWithin : Nat → Option (List Char) → List Glyph → Option (Option String × List Glyph)
  | 0, _, _ => none
  | fuel + 1, acc, s =>
    match textStep s with
    | .malformed => none
    | .done rest => some (acc.map fun cs => String.ofList cs.reverse, rest)
    | .char c rest => readTextWithin fuel (acc.map (c :: ·)) rest
    | .damaged rest => readTextWithin fuel none rest

/-- Reads a string after its opening quote. -/
def readText (s : List Glyph) : Option (Option String × List Glyph) :=
  readTextWithin (s.length + 1) (some []) s

/-- Splits off the leading digits. -/
def takeDigits (s : List Glyph) : List Nat × List Glyph :=
  let isDigit := fun g : Glyph => (g.bind digit?).isSome
  ((s.takeWhile isDigit).filterMap (·.bind digit?), s.dropWhile isDigit)

/-- The number that some digits write. -/
def digitsValue (digits : List Nat) : Nat :=
  digits.foldl (fun n d => 10 * n + d) 0

/-- Reads the digits of an exponent and its sign. -/
def readExponent (s : List Glyph) : Option (Int × List Glyph) :=
  let (negative, s) := match s with
    | some '-' :: rest => (true, rest)
    | some '+' :: rest => (false, rest)
    | _ => (false, s)
  let (digits, rest) := takeDigits s
  if digits.isEmpty then none
  else some (if negative then -(digitsValue digits : Int) else digitsValue digits, rest)

/-- Reads the part of a number behind its whole digits. -/
def readNumberTail (negative : Bool) (whole : List Nat) (s : List Glyph) :
    Option (NumberLiteral × List Glyph) := do
  let (fraction, s) ← match s with
    | some '.' :: rest =>
      let (digits, rest) := takeDigits rest
      if digits.isEmpty then none else some (some digits, rest)
    | _ => some (none, s)
  match s with
  | c :: rest =>
    if c == some 'e' || c == some 'E' then
      let (exponent, rest) ← readExponent rest
      return (⟨negative, whole, fraction, some exponent⟩, rest)
    else return (⟨negative, whole, fraction, none⟩, s)
  | [] => return (⟨negative, whole, fraction, none⟩, s)

/-- Reads a number from its first character on. -/
def readNumber (s : List Glyph) : Option (NumberLiteral × List Glyph) :=
  let (negative, s) := match s with
    | some '-' :: rest => (true, rest)
    | _ => (false, s)
  match s with
  | some '0' :: rest =>
    match rest with
    | c :: _ => if (c.bind digit?).isSome then none else readNumberTail negative [0] rest
    | [] => readNumberTail negative [0] rest
  | _ =>
    let (digits, rest) := takeDigits s
    if digits.isEmpty then none else readNumberTail negative digits rest

/-- Gives a value when the text begins with its word. -/
def readWord (word : String) (value : Json) (s : List Glyph) : Option (Json × List Glyph) :=
  (Text.dropStem? (word.toList.map some) s).map fun rest => (value, rest)

mutual

/-- Reads a value that begins right here. -/
def readValue : Nat → List Glyph → Option (Json × List Glyph)
  | 0, _ => none
  | fuel + 1, s =>
    match s with
    | [] => none
    | some '"' :: rest => (readText rest).map fun (content, rest) =>
        ((content.map Json.text).getD .unreadable, rest)
    | some '[' :: rest =>
      match skipGap rest with
      | some ']' :: rest => some (.array [], rest)
      | rest => (readItems fuel rest).map fun (items, rest) => (.array items, rest)
    | some '\x7b' :: rest =>
      match skipGap rest with
      | some '\x7d' :: rest => some (.object [], rest)
      | rest => (readMembers fuel rest).map fun (members, rest) =>
          ((members.map Json.object).getD .unreadable, rest)
    | some 't' :: _ => readWord "true" (.bool true) s
    | some 'f' :: _ => readWord "false" (.bool false) s
    | some 'n' :: _ => readWord "null" .null s
    | _ => (readNumber s).map fun (literal, rest) => (literal.value, rest)

/-- Reads the items of an array up to its closing bracket. -/
def readItems : Nat → List Glyph → Option (List Json × List Glyph)
  | 0, _ => none
  | fuel + 1, s => do
    let (item, rest) ← readValue fuel s
    match skipGap rest with
    | some ']' :: rest => return ([item], rest)
    | some ',' :: rest =>
      let (items, rest) ← readItems fuel (skipGap rest)
      return (item :: items, rest)
    | _ => none

/-- Reads the members of an object up to its closing brace; none when a name is damaged. -/
def readMembers : Nat → List Glyph → Option (Option (List (String × Json)) × List Glyph)
  | 0, _ => none
  | fuel + 1, s =>
    match s with
    | some '"' :: rest => do
      let (name, rest) ← readText rest
      match skipGap rest with
      | some ':' :: rest =>
        let (value, rest) ← readValue fuel (skipGap rest)
        match skipGap rest with
        | some '\x7d' :: rest => return (name.map fun name => [(name, value)], rest)
        | some ',' :: rest =>
          let (members, rest) ← readMembers fuel (skipGap rest)
          return (name.bind fun name => members.map fun ms => (name, value) :: ms, rest)
        | _ => none
      | _ => none
    | _ => none

end

/-- The value of a text with holes. -/
def ofGlyphs? (s : List Glyph) : Option Json :=
  match readValue (2 * s.length + 2) (skipGap s) with
  | some (value, rest) => if (skipGap rest).isEmpty then some value else none
  | none => none

/-- The value of a JSON text. -/
def ofBytes? (bytes : List UInt8) : Option Json :=
  ofGlyphs? (Text.glyphs bytes)

end MetricLoad.Json
