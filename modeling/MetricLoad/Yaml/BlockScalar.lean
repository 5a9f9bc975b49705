import MetricLoad.Yaml.Problem
import MetricLoad.Yaml.Token

/-!
# Literal and folded scalars

The header of a block scalar may fix its indentation and how its final line breaks are kept;
without it the first line decides on the indentation and one final break is kept.  A literal
scalar keeps its line breaks.  A folded one joins neighbouring lines by a space, except next to a
line that begins with a blank.
-/

namespace MetricLoad.Yaml

/-- How the final line breaks of a block scalar are kept. -/
inductive Chomping
  | strip
  | clip
  | keep
  deriving DecidableEq, Repr

/-- The header of a block scalar. -/
structure BlockHeader where
  chomping : Chomping
  /-- The indentation it asks for, relative to the parent; zero to find it out. -/
  indentation : Nat
  deriving Repr

/-- The chomping that an indicator asks for. -/
def Chomping.ofChar? (c : Char) : Option Chomping :=
  if c == '+' then some .keep else if c == '-' then some .strip else none

/-- Reads an indentation indicator, if one stands here. -/
def readIndentation (start : Mark) (c : Cursor) : Except SyntaxFault (Nat × Cursor) :=
  match c.peek? with
  | some x =>
    if x == '0' then .error ⟨.zeroIndentation, c.mark, some (.blockScalar, start)⟩
    else if '1' ≤ x && x ≤ '9' then .ok (x.toNat - '0'.toNat, c.skip 1)
    else .ok (0, c)
  | none => .ok (0, c)

/-- Reads the header of a block scalar up to the end of its line. -/
def readBlockHeader (start : Mark) (c : Cursor) : Except SyntaxFault (BlockHeader × Cursor) := do
  let (header, c) ← match c.peek?.bind Chomping.ofChar? with
    | some chomping =>
      let (indentation, c) ← readIndentation start (c.skip 1)
      pure (BlockHeader.mk chomping indentation, c)
    | none =>
      let (indentation, c) ← readIndentation start c
      match c.peek?.bind Chomping.ofChar? with
      | some chomping =>
        if indentation == 0 then pure (BlockHeader.mk .clip 0, c)
        else pure (BlockHeader.mk chomping indentation, c.skip 1)
      | none => pure (BlockHeader.mk .clip indentation, c)
  let c := (c.skipWhile isBlank).skipComment
  if c.atLineEnd then return (header, c.skipBreak)
  else throw ⟨.noCommentOrBreak, c.mark, some (.blockScalar, start)⟩

/-- The line breaks and indentation between two lines of a block scalar. -/
structure BlockGap where
  breaks : List Char
  /-- The greatest column reached by the indentation. -/
  widest : Nat
  cursor : Cursor

/-- Reads indentation and empty lines.  Without a known indentation all leading spaces count. -/
def readBlockGap (start : Mark) (indent : Nat) :
    Nat → List Char → Nat → Cursor → Except SyntaxFault BlockGap
  | 0, breaks, widest, c => .ok ⟨breaks, widest, c⟩
  | fuel + 1, breaks, widest, c =>
    let spaces := (c.rest.takeWhile (· == ' ')).length
    let c := c.skip (if indent == 0 then spaces else min spaces (indent - c.mark.column))
    let widest := max widest c.mark.column
    if (indent == 0 || c.mark.column < indent) && c.startsWith '\t' then
      .error ⟨.tabInIndentation, c.mark, some (.blockScalar, start)⟩
    else if c.peek?.any isBreak then
      let (line, c) := c.readBreak
      readBlockGap start indent fuel (breaks ++ line) widest c
    else .ok ⟨breaks, widest, c⟩

/-- The lines of a block scalar that were read. -/
structure BlockLines where
  text : List Char
  /-- The line break behind the last line. -/
  lastBreak : List Char
  /-- The line breaks behind that one. -/
  moreBreaks : List Char
  cursor : Cursor

/-- Reads the lines of a block scalar. -/
def readBlockLines (folded : Bool) (start : Mark) (indent : Nat) :
    Nat → Bool → BlockLines → Except SyntaxFault BlockLines
  | 0, _, lines => .ok lines
  | fuel + 1, afterBlank, lines =>
    let c := lines.cursor
    if c.mark.column != indent || c.rest.isEmpty then .ok lines
    else do
      let beginsBlank := c.peek?.any isBlank
      let joint :=
        if folded && lines.lastBreak == ['\n'] && !afterBlank && !beginsBlank then
          (if lines.moreBreaks.isEmpty then [' '] else [])
        else lines.lastBreak
      let (line, c) := c.span fun x => !isBreak x
      let (lastBreak, c) := c.readBreak
      let gap ← readBlockGap start indent (c.rest.length + 1) [] 0 c
      readBlockLines folded start indent fuel beginsBlank
        ⟨lines.text ++ joint ++ lines.moreBreaks ++ line, lastBreak, gap.breaks, gap.cursor⟩

/-- Reads a block scalar from its indicator on, inside a collection with the given indentation. -/
def readBlockScalar (folded : Bool) (parentIndent : Int) (c : Cursor) :
    Except SyntaxFault (List Char × Cursor) := do
  let start := c.mark
  let (header, c) ← readBlockHeader start (c.skip 1)
  let fixed :=
    if header.indentation == 0 then 0
    else if 0 ≤ parentIndent then parentIndent.toNat + header.indentation
    else header.indentation
  let gap ← readBlockGap start fixed (c.rest.length + 1) [] 0 c
  let indent :=
    if fixed == 0 then max gap.widest (max (parentIndent + 1).toNat 1) else fixed
  let lines ← readBlockLines folded start indent (c.rest.length + 1) false
    ⟨[], [], gap.breaks, gap.cursor⟩
  let tail := match header.chomping with
    | .strip => []
    | .clip => lines.lastBreak
    | .keep => lines.lastBreak ++ lines.moreBreaks
  return (lines.text ++ tail, lines.cursor)

end MetricLoad.Yaml
