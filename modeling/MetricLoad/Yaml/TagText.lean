import MetricLoad.Yaml.Problem
import MetricLoad.Yaml.Token
import MetricLoad.Yaml.FlowScalar
import MetricLoad.Yaml.Tag

/-!
# Tags, anchors and directives

A tag is a handle with a suffix, a suffix alone, or a whole name between angle brackets.  Its text
may hold percent escapes, each run of which has the form of one character in UTF-8.  A zero byte
ends the text, whatever stands behind it.
-/

namespace MetricLoad.Yaml

/-- Whether a character may stand in the text of a tag. -/
def isTagChar (verbatim : Bool) (c : Char) : Bool :=
  isWordChar c || [';', '/', '?', ':', '@', '&', '=', '+', '$', '.', '%', '!', '~', '*', '\'', '(',
    ')'].contains c || (verbatim && [',', '[', ']'].contains c)

/-- The number of bytes of a character that begins with the given byte. -/
def octetCount? (b : Nat) : Option Nat :=
  if b < 0x80 then some 1
  else if 0xC0 ≤ b && b < 0xE0 then some 2
  else if 0xE0 ≤ b && b < 0xF0 then some 3
  else if 0xF0 ≤ b && b < 0xF8 then some 4
  else none

/-- Reads an escaped byte. -/
def readOctet? (s : List Char) : Option Nat :=
  match s with
  | '%' :: a :: b :: _ => do
    let a ← Text.hexDigit? a
    let b ← Text.hexDigit? b
    return 16 * a + b
  | _ => none

/-- Reads the escaped bytes that continue a character. -/
def readTailOctets : Nat → List UInt8 → Cursor → Except (Problem × Mark) (List UInt8 × Cursor)
  | 0, bytes, c => .ok (bytes, c)
  | count + 1, bytes, c =>
    match readOctet? c.rest with
    | none => .error (.noEscapedOctet, c.mark)
    | some b =>
      if 0x80 ≤ b && b < 0xC0 then readTailOctets count (bytes ++ [b.toUInt8]) (c.skip 3)
      else .error (.badTrailingOctet, c.mark)

/-- Reads the bytes of a character that is spelled by percent escapes. -/
def readEscapedChar (c : Cursor) : Except (Problem × Mark) (List UInt8 × Cursor) :=
  match readOctet? c.rest with
  | none => .error (.noEscapedOctet, c.mark)
  | some b =>
    match octetCount? b with
    | none => .error (.badLeadingOctet, c.mark)
    | some count => readTailOctets (count - 1) [b.toUInt8] (c.skip 3)

/-- Reads the bytes of a tag; all of its characters are of one byte. -/
def readTagBytes (verbatim : Bool) :
    Nat → List UInt8 → Cursor → Except (Problem × Mark) (List UInt8 × Cursor)
  | 0, bytes, c => .ok (bytes, c)
  | fuel + 1, bytes, c =>
    match c.peek? with
    | some x =>
      if !isTagChar verbatim x then .ok (bytes, c)
      else if x == '%' then do
        let (escaped, c) ← readEscapedChar c
        readTagBytes verbatim fuel (bytes ++ escaped) c
      else readTagBytes verbatim fuel (bytes ++ [x.toNat.toUInt8]) (c.skip 1)
    | none => .ok (bytes, c)

/-- Reads the text of a tag behind what was read of it already; the whole must not be empty. -/
def readTagText (verbatim : Bool) (context : Context) (start : Mark) (head : List Char)
    (c : Cursor) : Except SyntaxFault (List UInt8 × Cursor) :=
  let read := (head.drop 1).map fun x => x.toNat.toUInt8
  match readTagBytes verbatim (c.rest.length + 1) read c with
  | .error (problem, mark) => .error ⟨problem, mark, some (context, start)⟩
  | .ok (bytes, behind) =>
    if head.isEmpty && behind.mark.index == c.mark.index then
      .error ⟨.noTagText, behind.mark, some (context, start)⟩
    else .ok (untilZero bytes, behind)

/-- Reads an exclamation mark and what follows it up to the next one. -/
def readTagHandle (context : Context) (start : Mark) (c : Cursor) :
    Except SyntaxFault (List Char × Cursor) :=
  if !c.startsWith '!' then .error ⟨.noExclamation, c.mark, some (context, start)⟩
  else
    let (word, behind) := (c.skip 1).span isWordChar
    if behind.startsWith '!' then .ok ('!' :: word ++ ['!'], behind.skip 1)
    else .ok ('!' :: word, behind)

/-- Reads a tag from its exclamation mark on. -/
def readTag (inFlow : Bool) (c : Cursor) : Except SyntaxFault (TokenKind × Cursor) := do
  let start := c.mark
  let (kind, c) ←
    if c.rest.take 2 == ['!', '<'] then do
      let (text, c) ← readTagText true .tagText start [] (c.skip 2)
      if c.startsWith '>' then pure (TokenKind.tag "" text, c.skip 1)
      else throw ⟨.noVerbatimEnd, c.mark, some (.tag, start)⟩
    else do
      let (handle, c) ← readTagHandle .tag start c
      if handle.length > 1 && handle.getLast? == some '!' then
        let (suffix, c) ← readTagText false .tagText start [] c
        pure (TokenKind.tag (String.ofList handle) suffix, c)
      else
        let (suffix, c) ← readTagText false .tagText start handle c
        if suffix.isEmpty then pure (TokenKind.tag "" [0x21], c)
        else pure (TokenKind.tag "!" suffix, c)
  if c.isGapAt 0 || (inFlow && c.startsWith ',') then return (kind, c)
  else throw ⟨.noBlankOrBreak, c.mark, some (.tag, start)⟩

/-- Reads an anchor or an alias from its indicator on. -/
def readAnchor (context : Context) (c : Cursor) : Except SyntaxFault (String × Cursor) :=
  let (word, behind) := (c.skip 1).span isWordChar
  let ends := behind.isGapAt 0 ||
    behind.peek?.any fun x => ['?', ':', ',', ']', '\x7d', '%', '@', '\x60'].contains x
  if word.isEmpty || !ends then .error ⟨.noWordChar, behind.mark, some (context, c.mark)⟩
  else .ok (String.ofList word, behind)

/-- Reads a number of a version directive. -/
def readVersionNumber (start : Mark) (c : Cursor) : Except SyntaxFault (Nat × Cursor) :=
  let (digits, behind) := c.span fun x => '0' ≤ x && x ≤ '9'
  let context := some (Context.versionDirective, start)
  if digits.length > 9 then .error ⟨.longVersionNumber, (c.skip 9).mark, context⟩
  else if digits.isEmpty then .error ⟨.noVersionNumber, c.mark, context⟩
  else .ok (digits.foldl (fun n x => 10 * n + (x.toNat - '0'.toNat)) 0, behind)

/-- Reads the version of a version directive. -/
def readVersion (start : Mark) (c : Cursor) : Except SyntaxFault (TokenKind × Cursor) := do
  let (major, c) ← readVersionNumber start (c.skipWhile isBlank)
  if !c.startsWith '.' then
    throw ⟨.noDigitOrPoint, c.mark, some (.versionDirective, start)⟩
  let (minor, c) ← readVersionNumber start (c.skip 1)
  return (.versionDirective major minor, c)

/-- Reads the handle and the text it stands for of a tag directive. -/
def readTagDirective (start : Mark) (c : Cursor) : Except SyntaxFault (TokenKind × Cursor) := do
  let (handle, c) ← readTagHandle .tagDirectiveHandle start (c.skipWhile isBlank)
  if handle.length > 1 && handle.getLast? != some '!' then
    throw ⟨.noExclamation, c.mark, some (.tagDirectiveHandleEnd, start)⟩
  if !c.peek?.any isBlank then throw ⟨.noBlank, c.mark, some (.tagDirective, start)⟩
  let (stem, c) ← readTagText true .tagDirectiveText start [] (c.skipWhile isBlank)
  if !c.isGapAt 0 then throw ⟨.noBlankOrBreak, c.mark, some (.tagDirective, start)⟩
  return (.tagDirective (String.ofList handle) stem, c)

/-- Reads a directive with its line. -/
def readDirective (c : Cursor) : Except SyntaxFault (TokenKind × Cursor) := do
  let start := c.mark
  let context := some (Context.directive, start)
  let (name, c) := (c.skip 1).span isWordChar
  if name.isEmpty then throw ⟨.noDirectiveName, c.mark, context⟩
  if !c.isGapAt 0 then throw ⟨.badDirectiveName, c.mark, context⟩
  let (kind, c) ←
    if name == "YAML".toList then readVersion start c
    else if name == "TAG".toList then readTagDirective start c
    else throw ⟨.unknownDirective, c.mark, context⟩
  let c := (c.skipWhile isBlank).skipComment
  if c.atLineEnd then return (kind, c.skipBreak)
  else throw ⟨.noCommentOrBreak, c.mark, context⟩

end MetricLoad.Yaml
