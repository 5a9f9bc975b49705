import MetricLoad.Yaml.Cursor
import MetricLoad.Yaml.Problem

/-!
# Gaps inside flow scalars

Between the words of a plain or quoted scalar stand blanks and line breaks.  On one line they are
kept.  A single line break is folded into a space; of several breaks the first one is dropped.
-/

namespace MetricLoad.Yaml

/-- The blanks and line breaks between two words of a scalar. -/
structure Gap where
  /-- The blanks before the first line break. -/
  blanks : List Char
  /-- Whether the gap goes over the end of a line. -/
  overLines : Bool
  /-- The first line break, unless it was escaped. -/
  firstBreak : List Char
  /-- The line breaks behind it. -/
  moreBreaks : List Char
  deriving Repr, Inhabited

namespace Gap

/-- No gap. -/
def empty : Gap := ⟨[], false, [], []⟩

/-- A gap that begins with an escaped line break. -/
def escapedBreak : Gap := ⟨[], true, [], []⟩

/-- What a gap contributes to the scalar. -/
def folded (g : Gap) : List Char :=
  if !g.overLines then g.blanks
  else if g.firstBreak == ['\n'] then (if g.moreBreaks.isEmpty then [' '] else g.moreBreaks)
  else g.firstBreak ++ g.moreBreaks

/-- Reads blanks and line breaks.  With an indentation limit, a tab below it at the start of a line
is refused. -/
def read (limit : Option Int) : Nat → Gap → Cursor → Except Mark (Gap × Cursor)
  | 0, g, c => .ok (g, c)
  | fuel + 1, g, c =>
    match c.rest with
    | [] => .ok (g, c)
    | x :: _ =>
      if isBlank x then
        if g.overLines && x == '\t' && limit.any (fun l => (c.mark.column : Int) < l) then
          .error c.mark
        else if g.overLines then read limit fuel g (c.skip 1)
        else read limit fuel { g with blanks := g.blanks ++ [x] } (c.skip 1)
      else if isBreak x then
        let (line, c) := c.readBreak
        if g.overLines then read limit fuel { g with moreBreaks := g.moreBreaks ++ line } c
        else read limit fuel ⟨[], true, line, []⟩ c
      else .ok (g, c)

end Gap
end MetricLoad.Yaml
