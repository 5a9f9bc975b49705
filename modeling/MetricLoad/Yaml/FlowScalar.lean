import MetricLoad.Text.Digit
import MetricLoad.Yaml.Gap
import MetricLoad.Yaml.Token

/-!
# Plain and quoted scalars

A plain scalar ends before a comment, a colon with a gap behind it, a flow indicator inside a flow
collection, or a line that is indented too little.  In a single-quoted scalar a quote is written
twice; a double-quoted scalar has escapes, among them the escaped line break.
-/

namespace MetricLoad.Yaml

/-- A scalar that was read, the cursor behind it, and whether it ended with a gap over a line. -/
structure ScannedScalar where
  text : List Char
  cursor : Cursor
  endsAfterBreak : Bool

/-- Whether a character separates the parts of flow collections. -/
def isFlowIndicator (c : Char) : Bool :=
  c == ',' || c == '[' || c == ']' || c == '\x7b' || c == '\x7d'

/-- Reads the characters of a plain scalar up to a gap or its end.  A colon right before a flow
indicator is refused inside flow collections. -/
def readPlainWord (inFlow : Bool) : List Char → Nat → Except Nat (List Char)
  | [], _ => .ok []
  | x :: rest, count =>
    if isBlank x || isBreak x then .ok []
    else
      let next := rest.head?
      let beforeIndicator := next.any fun y => isFlowIndicator y || y == '?'
      if inFlow && x == ':' && beforeIndicator then .error count
      else if x == ':' && next.all (fun y => isBlank y || isBreak y) then .ok []
      else if inFlow && isFlowIndicator x then .ok []
      else (readPlainWord inFlow rest (count + 1)).map (x :: ·)

/-- Reads the words of a plain scalar. -/
def readPlainWords (inFlow : Bool) (indent : Int) (start : Mark) :
    Nat → List Char → Gap → Cursor → Except SyntaxFault ScannedScalar
  | 0, text, g, c => .ok ⟨text, c, g.overLines⟩
  | fuel + 1, text, g, c =>
    let context := some (Context.plainScalar, start)
    if c.atDocumentMarker || c.startsWith '#' then .ok ⟨text, c, g.overLines⟩
    else match readPlainWord inFlow c.rest 0 with
      | .error count => .error ⟨.unexpectedColon, (c.skip count).mark, context⟩
      | .ok word =>
        let behind := c.skip word.length
        let (text, g) := if word.isEmpty then (text, g) else (text ++ g.folded ++ word, Gap.empty)
        match behind.peek? with
        | none => .ok ⟨text, behind, g.overLines⟩
        | some x =>
          if !(isBlank x || isBreak x) then .ok ⟨text, behind, g.overLines⟩
          else match Gap.read (some indent) (behind.rest.length + 1) g behind with
            | .error mark => .error ⟨.tabViolatesIndentation, mark, context⟩
            | .ok (g, next) =>
              if !inFlow && (next.mark.column : Int) < indent then .ok ⟨text, next, g.overLines⟩
              else readPlainWords inFlow indent start fuel text g next

/-- Reads a plain scalar; outside flow collections its lines are indented by at least `indent`. -/
def readPlain (inFlow : Bool) (indent : Int) (c : Cursor) : Except SyntaxFault ScannedScalar :=
  readPlainWords inFlow indent c.mark (c.rest.length + 1) [] Gap.empty c

/-- What an escape letter stands for. -/
inductive Escape
  | char (c : Char)
  /-- A character by its number in so many hexadecimal digits. -/
  | code (digits : Nat)

/-- The escape of a letter. -/
def Escape.ofChar? (c : Char) : Option Escape :=
  match c with
  | '0' => some (.char '\x00')
  | 'a' => some (.char '\x07')
  | 'b' => some (.char '\x08')
  | 't' | '\t' => some (.char '\t')
  | 'n' => some (.char '\n')
  | 'v' => some (.char '\x0b')
  | 'f' => some (.char '\x0c')
  | 'r' => some (.char '\r')
  | 'e' => some (.char '\x1b')
  | ' ' => some (.char ' ')
  | '"' => some (.char '"')
  | '/' => some (.char '/')
  | '\\' => some (.char '\\')
  | 'N' => some (.char '\x85')
  | '_' => some (.char '\xa0')
  | 'L' => some (.char '\u2028')
  | 'P' => some (.char '\u2029')
  | 'x' => some (.code 2)
  | 'u' => some (.code 4)
  | 'U' => some (.code 8)
  | _ => none

/-- Reads an escape behind its backslash: the character and the count of characters used. -/
def readEscape (c : Cursor) : Except (Problem × Mark) (Char × Nat) :=
  match c.rest with
  | _ :: letter :: rest =>
    match Escape.ofChar? letter with
    | none => .error (.unknownEscape, c.mark)
    | some (.char x) => .ok (x, 2)
    | some (.code count) =>
      let digits := rest.take count
      let behind := (c.skip 2).mark
      if digits.length < count then .error (.noHexNumber, behind)
      else match Text.radixNumber? 16 digits with
        | none => .error (.noHexNumber, behind)
        | some n =>
          if (0xD800 ≤ n && n ≤ 0xDFFF) || n > 0x10FFFF then .error (.badEscapeCode, behind)
          else .ok (Char.ofNat n, 2 + count)
  | _ => .error (.unknownEscape, c.mark)

/-- Where a run of characters inside a quoted scalar ends. -/
inductive QuotedStop
  /-- At the closing quote. -/
  | quote
  /-- At a gap or at the end of the text. -/
  | gap
  /-- Behind an escaped line break. -/
  | escapedBreak

/-- Reads the characters of a quoted scalar up to a gap or its closing quote. -/
def readQuotedWord (double : Bool) (start : Mark) :
    Nat → List Char → Cursor → Except SyntaxFault (List Char × QuotedStop × Cursor)
  | 0, word, c => .ok (word.reverse, .gap, c)
  | fuel + 1, word, c =>
    match c.rest with
    | [] => .ok (word.reverse, .gap, c)
    | x :: rest =>
      if isBlank x || isBreak x then .ok (word.reverse, .gap, c)
      else if !double && x == '\'' && rest.head? == some '\'' then
        readQuotedWord double start fuel ('\'' :: word) (c.skip 2)
      else if x == (if double then '"' else '\'') then .ok (word.reverse, .quote, c)
      else if double && x == '\\' then
        if rest.head?.any isBreak then .ok (word.reverse, .escapedBreak, (c.skip 1).skipBreak)
        else match readEscape c with
          | .error (problem, mark) => .error ⟨problem, mark, some (.quotedEscape, start)⟩
          | .ok (y, count) => readQuotedWord double start fuel (y :: word) (c.skip count)
      else readQuotedWord double start fuel (x :: word) (c.skip 1)

/-- Reads the words of a quoted scalar up to its closing quote. -/
def readQuotedWords (double : Bool) (start : Mark) :
    Nat → List Char → Cursor → Except SyntaxFault (List Char × Cursor)
  | 0, _, c => .error ⟨.endOfStream, c.mark, some (.quotedScalar, start)⟩
  | fuel + 1, text, c =>
    if c.atDocumentMarker then .error ⟨.documentMarker, c.mark, some (.quotedScalar, start)⟩
    else if c.rest.isEmpty then .error ⟨.endOfStream, c.mark, some (.quotedScalar, start)⟩
    else do
      let (word, stop, behind) ← readQuotedWord double start (c.rest.length + 1) [] c
      let text := text ++ word
      let atQuote := behind.startsWith (if double then '"' else '\'')
      match stop with
      | .quote => return (text, behind.skip 1)
      | .escapedBreak =>
        if atQuote then return (text, behind.skip 1)
        else match Gap.read none (behind.rest.length + 1) .escapedBreak behind with
          | .error _ => return (text, behind)
          | .ok (g, next) => readQuotedWords double start fuel (text ++ g.folded) next
      | .gap =>
        match Gap.read none (behind.rest.length + 1) .empty behind with
        | .error _ => return (text, behind)
        | .ok (g, next) => readQuotedWords double start fuel (text ++ g.folded) next

/-- Reads a quoted scalar from its opening quote on. -/
def readQuoted (double : Bool) (c : Cursor) : Except SyntaxFault (List Char × Cursor) :=
  readQuotedWords double c.mark (c.rest.length + 1) [] (c.skip 1)

end MetricLoad.Yaml
