import MetricLoad.Yaml.BlockScalar
import MetricLoad.Yaml.FlowScalar
import MetricLoad.Yaml.TagText

/-!
# Tokens of a text

The lexer reads one token after the other.  It keeps the columns of the open block collections: a
smaller column closes them.  What may turn out to be the key of a mapping is remembered, one
candidate for each level of flow collections; the colon behind it puts the key token in front of it.
A candidate lapses at the end of its line or after 1024 bytes.  Of a text with a fault the
tokens in front of the candidates are still good.
-/

namespace MetricLoad.Yaml

/-- A token that may turn out to begin a key. -/
structure KeyCandidate where
  /-- Its place in the list of tokens. -/
  place : Nat
  /-- Whether nothing but a key can stand here. -/
  required : Bool
  mark : Mark
  deriving Repr

/-- The state between two tokens. -/
structure Lexer where
  cursor : Cursor
  tokens : Array Token
  /-- The column of the innermost block collection. -/
  indent : Int
  /-- The columns of the collections around it. -/
  outerIndents : List Int
  /-- Whether a key may begin at the next token. -/
  keyAllowed : Bool
  /-- The candidate of the current level of flow collections. -/
  candidate : Option KeyCandidate
  /-- The candidates of the levels around it. -/
  outerCandidates : List (Option KeyCandidate)

namespace Lexer

/-- The start of a text. -/
def start (chars : List Char) : Lexer :=
  ⟨⟨chars, ⟨0, 0, 0⟩⟩, #[], -1, [], true, none, []⟩

/-- Whether the lexer is inside a flow collection. -/
def inFlow (l : Lexer) : Bool :=
  !l.outerCandidates.isEmpty

/-- Adds a token that ends where the cursor of the new state stands. -/
def push (l : Lexer) (kind : TokenKind) (start : Mark) (cursor : Cursor) : Lexer :=
  { l with tokens := l.tokens.push ⟨kind, start, cursor.mark⟩, cursor := cursor }

/-- Adds an empty token in front of the token at a place. -/
def insertAt (l : Lexer) (place : Nat) (kind : TokenKind) (mark : Mark) : Lexer :=
  { l with tokens := l.tokens.insertIdxIfInBounds place ⟨kind, mark, mark⟩ }

/-- The fault of a candidate that had to be a key. -/
def missingColon (l : Lexer) (k : KeyCandidate) : SyntaxFault :=
  ⟨.noColonAfterKey, l.cursor.mark, some (.simpleKey, k.mark)⟩

/-- Whether a candidate can no longer be a key. -/
def isStale (l : Lexer) (k : KeyCandidate) : Bool :=
  k.mark.line < l.cursor.mark.line || k.mark.index + 1024 < l.cursor.mark.index

/-- Drops a candidate that has lapsed; one that had to be a key is a fault. -/
def refresh (l : Lexer) (k : Option KeyCandidate) : Except SyntaxFault (Option KeyCandidate) :=
  match k with
  | none => .ok none
  | some k =>
    if !l.isStale k then .ok (some k)
    else if k.required then .error (l.missingColon k)
    else .ok none

/-- Drops all candidates that have lapsed. -/
def dropStale (l : Lexer) : Except SyntaxFault Lexer := do
  let outer ← l.outerCandidates.mapM l.refresh
  let candidate ← l.refresh l.candidate
  return { l with candidate := candidate, outerCandidates := outer }

/-- Gives up the candidate of the current level. -/
def dropCandidate (l : Lexer) : Except SyntaxFault Lexer :=
  match l.candidate with
  | some k => if k.required then .error (l.missingColon k) else .ok { l with candidate := none }
  | none => .ok l

/-- Makes the next token the candidate of the current level, if a key may begin here. -/
def saveCandidate (l : Lexer) : Except SyntaxFault Lexer := do
  if !l.keyAllowed then return l
  let required := !l.inFlow && l.indent == (l.cursor.mark.column : Int)
  let l ← l.dropCandidate
  return { l with candidate := some ⟨l.tokens.size, required, l.cursor.mark⟩ }

/-- Opens a block collection when the column lies deeper than the current one. -/
def openBlock (l : Lexer) (column : Nat) (place : Option Nat) (kind : TokenKind) (mark : Mark) :
    Lexer :=
  if l.inFlow || (column : Int) ≤ l.indent then l
  else
    let l := { l with indent := column, outerIndents := l.indent :: l.outerIndents }
    match place with
    | some place => l.insertAt place kind mark
    | none => { l with tokens := l.tokens.push ⟨kind, mark, mark⟩ }

/-- Closes the block collections that lie deeper than a column. -/
def closeFrom (mark : Mark) (column : Int) (tokens : Array Token) (indent : Int) :
    List Int → Array Token × Int × List Int
  | [] => (tokens, indent, [])
  | outer :: rest =>
    if indent ≤ column then (tokens, indent, outer :: rest)
    else closeFrom mark column (tokens.push ⟨.blockEnd, mark, mark⟩) outer rest

/-- Closes the block collections that lie deeper than a column, outside flow collections. -/
def closeBlocks (l : Lexer) (column : Int) : Lexer :=
  if l.inFlow then l
  else
    let (tokens, indent, outer) :=
      closeFrom l.cursor.mark column l.tokens l.indent l.outerIndents
    { l with tokens := tokens, indent := indent, outerIndents := outer }

/-- Moves over blanks, comments and line breaks to the next token.  Tabs count as blanks where no
key may begin, and a byte order mark counts as one at the start of a line. -/
def skipToToken : Nat → Lexer → Lexer
  | 0, l => l
  | fuel + 1, l =>
    let c := l.cursor
    let c := if c.mark.column == 0 && c.startsWith '\uFEFF' then c.skip 1 else c
    let tabs := l.inFlow || !l.keyAllowed
    let c := c.skipWhile fun x => x == ' ' || (tabs && x == '\t')
    let c := c.skipComment
    if c.peek?.any isBreak then
      skipToToken fuel
        { l with cursor := c.skipBreak, keyAllowed := l.keyAllowed || !l.inFlow }
    else { l with cursor := c }

/-- Reads the marker of a document. -/
def readMarker (l : Lexer) (kind : TokenKind) : Except SyntaxFault Lexer := do
  let l ← (l.closeBlocks (-1)).dropCandidate
  return { l.push kind l.cursor.mark (l.cursor.skip 3) with keyAllowed := false }

/-- Ends the stream. -/
def readEnd (l : Lexer) : Except SyntaxFault Lexer := do
  let mark := l.cursor.mark
  let mark := if mark.column == 0 then mark else ⟨mark.index, mark.line + 1, 0⟩
  let l := { l with cursor := { l.cursor with mark := mark } }
  let l ← (l.closeBlocks (-1)).dropCandidate
  return { l.push .streamEnd mark l.cursor with keyAllowed := false }

/-- Reads a directive. -/
def readDirectiveToken (l : Lexer) : Except SyntaxFault Lexer := do
  let l ← (l.closeBlocks (-1)).dropCandidate
  let (kind, c) ← readDirective l.cursor
  return { l.push kind l.cursor.mark c with keyAllowed := false }

/-- Opens a flow collection. -/
def readFlowStart (l : Lexer) (kind : TokenKind) : Except SyntaxFault Lexer := do
  let l ← l.saveCandidate
  let l := l.push kind l.cursor.mark (l.cursor.skip 1)
  return { l with
    outerCandidates := l.candidate :: l.outerCandidates, candidate := none, keyAllowed := true }

/-- Closes a flow collection. -/
def readFlowEnd (l : Lexer) (kind : TokenKind) : Except SyntaxFault Lexer := do
  let l ← l.dropCandidate
  let (candidate, outer) := match l.outerCandidates with
    | [] => (none, [])
    | k :: rest => (k, rest)
  return { l.push kind l.cursor.mark (l.cursor.skip 1) with
    candidate := candidate, outerCandidates := outer, keyAllowed := false }

/-- Reads a comma of a flow collection. -/
def readFlowEntry (l : Lexer) : Except SyntaxFault Lexer := do
  let l ← l.dropCandidate
  return { l.push .flowEntry l.cursor.mark (l.cursor.skip 1) with keyAllowed := true }

/-- Reads the dash of a block sequence. -/
def readBlockEntry (l : Lexer) : Except SyntaxFault Lexer := do
  let mark := l.cursor.mark
  if !l.inFlow && !l.keyAllowed then throw ⟨.entryNotAllowed, mark, none⟩
  let l ← (l.openBlock mark.column none .blockSequenceStart mark).dropCandidate
  return { l.push .blockEntry mark (l.cursor.skip 1) with keyAllowed := true }

/-- Reads a question mark that begins a key. -/
def readKey (l : Lexer) : Except SyntaxFault Lexer := do
  let mark := l.cursor.mark
  if !l.inFlow && !l.keyAllowed then throw ⟨.keyNotAllowed, mark, none⟩
  let l ← (l.openBlock mark.column none .blockMappingStart mark).dropCandidate
  return { l.push .key mark (l.cursor.skip 1) with keyAllowed := !l.inFlow }

/-- Reads the colon in front of a value.  A candidate becomes a key by it. -/
def readValue (l : Lexer) : Except SyntaxFault Lexer := do
  let mark := l.cursor.mark
  let l ← match l.candidate with
    | some k =>
      let l := l.insertAt k.place .key k.mark
      let l := l.openBlock k.mark.column (some k.place) .blockMappingStart k.mark
      pure { l with candidate := none, keyAllowed := false }
    | none =>
      if !l.inFlow && !l.keyAllowed then throw ⟨.valueNotAllowed, mark, none⟩
      pure { l.openBlock mark.column none .blockMappingStart mark with keyAllowed := !l.inFlow }
  return l.push .value mark (l.cursor.skip 1)

/-- Reads an alias, an anchor or a tag. -/
def readProperty (l : Lexer)
    (read : Cursor → Except SyntaxFault (TokenKind × Cursor)) : Except SyntaxFault Lexer := do
  let l ← l.saveCandidate
  let (kind, c) ← read l.cursor
  return { l.push kind l.cursor.mark c with keyAllowed := false }

/-- Reads a literal or folded scalar. -/
def readBlockScalarToken (l : Lexer) (folded : Bool) : Except SyntaxFault Lexer := do
  let l ← l.dropCandidate
  let (text, c) ← readBlockScalar folded l.indent l.cursor
  let style := if folded then ScalarStyle.folded else ScalarStyle.literal
  return { l.push (.scalar style (String.ofList text)) l.cursor.mark c with keyAllowed := true }

/-- Reads a plain scalar. -/
def readPlainToken (l : Lexer) : Except SyntaxFault Lexer := do
  let l ← l.saveCandidate
  let scalar ← readPlain l.inFlow (l.indent + 1) l.cursor
  return { l.push (.scalar .plain (String.ofList scalar.text)) l.cursor.mark scalar.cursor with
    keyAllowed := scalar.endsAfterBreak }

/-- Reads a quoted scalar. -/
def readQuotedToken (l : Lexer) (double : Bool) : Except SyntaxFault Lexer :=
  let style := if double then ScalarStyle.doubleQuoted else ScalarStyle.singleQuoted
  l.readProperty fun c => do
    let (text, c) ← readQuoted double c
    return (.scalar style (String.ofList text), c)

/-- Whether a plain scalar may begin with a character that has the given one behind it. -/
def beginsPlain (inFlow : Bool) (c : Cursor) (x : Char) : Bool :=
  if x == '-' then !(c.rest.drop 1).head?.any isBlank
  else if x == '?' || x == ':' then !inFlow && !c.isGapAt 1
  else !(isBlank x || isBreak x) && !isFlowIndicator x &&
    !(['#', '&', '*', '!', '|', '>', '\'', '"', '%', '@', '\x60'].contains x)

/-- Reads the next token. -/
def readToken (l : Lexer) : Except SyntaxFault Lexer := do
  let l ← (skipToToken (l.cursor.rest.length + 1) l).dropStale
  let l := l.closeBlocks l.cursor.mark.column
  let c := l.cursor
  match c.peek? with
  | none => l.readEnd
  | some x =>
    if c.mark.column == 0 && x == '%' then l.readDirectiveToken
    else if c.atMarker '-' then l.readMarker .documentStart
    else if c.atMarker '.' then l.readMarker .documentEnd
    else if x == '[' then l.readFlowStart .flowSequenceStart
    else if x == '\x7b' then l.readFlowStart .flowMappingStart
    else if x == ']' then l.readFlowEnd .flowSequenceEnd
    else if x == '\x7d' then l.readFlowEnd .flowMappingEnd
    else if x == ',' then l.readFlowEntry
    else if x == '-' && c.isGapAt 1 then l.readBlockEntry
    else if x == '?' && (l.inFlow || c.isGapAt 1) then l.readKey
    else if x == ':' && (l.inFlow || c.isGapAt 1) then l.readValue
    else if x == '*' then l.readProperty fun c =>
      (readAnchor .aliasName c).map fun (name, c) => (.alias name, c)
    else if x == '&' then l.readProperty fun c =>
      (readAnchor .anchorName c).map fun (name, c) => (.anchor name, c)
    else if x == '!' then l.readProperty (readTag l.inFlow)
    else if x == '|' && !l.inFlow then l.readBlockScalarToken false
    else if x == '>' && !l.inFlow then l.readBlockScalarToken true
    else if x == '\'' then l.readQuotedToken false
    else if x == '"' then l.readQuotedToken true
    else if beginsPlain l.inFlow c x then l.readPlainToken
    else throw ⟨.noToken, c.mark, some (.nextToken, c.mark)⟩

/-- How many tokens are certain: those in front of all candidates. -/
def certain (l : Lexer) : Nat :=
  (l.candidate :: l.outerCandidates).foldl
    (fun count k => match k with
      | some k => min count k.place
      | none => count)
    l.tokens.size

/-- Whether the end of the text has been read. -/
def isAtEnd (l : Lexer) : Bool :=
  match l.tokens.back? with
  | some ⟨.streamEnd, _, _⟩ => true
  | _ => false

/-- Reads tokens up to the end of the stream or to the first fault.  Every token but the last uses
up a character. -/
def readTokens : Nat → Lexer → List Token × Option SyntaxFault
  | 0, l => (l.tokens.toList, none)
  | fuel + 1, l =>
    if l.isAtEnd then (l.tokens.toList, none)
    else match l.readToken.bind dropStale with
      | .error fault => (l.tokens.toList.take l.certain, some fault)
      | .ok next => readTokens fuel next

end Lexer

/-- Whether a character may occur in a YAML text. -/
def isAllowed (c : Char) : Bool :=
  let n := c.toNat
  n == 9 || n == 10 || n == 13 || (0x20 ≤ n && n ≤ 0x7E) || n == 0x85 ||
    (0xA0 ≤ n && n ≤ 0xD7FF) || (0xE000 ≤ n && n ≤ 0xFFFD) || 0x10000 ≤ n

/-- The tokens of a text, and what is wrong behind them. -/
def tokens (text : String) : List Token × Option SyntaxFault :=
  let chars := text.toList
  match chars.dropWhile isAllowed with
  | _ :: _ =>
    ([], some ⟨.controlCharacter, ⟨Text.byteCount (chars.takeWhile isAllowed), 0, 0⟩, none⟩)
  | [] => Lexer.readTokens (chars.length + 2) (.start chars)

end MetricLoad.Yaml
