import MetricLoad.Pattern.Class
import MetricLoad.Text.Letter

/-!
# Patterns

Which texts are regular expressions.  A pattern is a sequence of parts: characters, classes,
positions and groups, of which any may be repeated, and bars separate alternatives.  Flags at the
start of a group or by themselves switch modes up to the end of the group around them.  Names of
groups are unique, and parts are nested at most 250 levels deep.

A pattern is always a value in a filter, where no closing brace can stand, so counted repetitions
and everything else with braces is left out.  Looking ahead and behind is not supported.
-/

namespace MetricLoad.Pattern

/-- A part of a sequence. -/
inductive Part
  /-- A part that may be repeated, by the depth of its nesting. -/
  | element (depth : Nat)
  | flags
  deriving DecidableEq, Repr

/-- How deeply a part is nested. -/
def Part.depth : Part → Nat
  | element depth => depth
  | flags => 0

/-- How deeply a sequence is nested. -/
def sequenceDepth : List Part → Nat
  | [] => 0
  | [only] => only.depth
  | parts => depthAround (parts.map Part.depth)

/-- A group under construction. -/
structure OpenGroup where
  modes : Modes
  /-- The parts behind the last bar, the last one first. -/
  parts : List Part := []
  /-- The depths of the alternatives in front of the last bar. -/
  alternatives : List Nat := []

namespace OpenGroup

/-- The group with one more part. -/
def add (g : OpenGroup) (part : Part) : OpenGroup :=
  { g with parts := part :: g.parts }

/-- How deeply the content of a group is nested. -/
def depth (g : OpenGroup) : Nat :=
  match g.alternatives with
  | [] => sequenceDepth g.parts
  | others => depthAround (sequenceDepth g.parts :: others)

/-- The group behind a bar. -/
def bar (g : OpenGroup) : OpenGroup :=
  ⟨g.modes, [], sequenceDepth g.parts :: g.alternatives⟩

/-- The group with its last part repeated, when there is one. -/
def repeat? (g : OpenGroup) : Option OpenGroup :=
  match g.parts with
  | .element depth :: rest => some { g with parts := .element (depth + 1) :: rest }
  | _ => none

end OpenGroup

/-- What has been read of a pattern. -/
structure Progress where
  group : OpenGroup
  /-- The groups around it, the innermost first. -/
  around : List OpenGroup := []
  /-- The names of groups. -/
  names : List (List Char) := []

namespace Progress

/-- One more part of the innermost group. -/
def add (p : Progress) (part : Part) : Progress :=
  { p with group := p.group.add part }

/-- A group begins. -/
def enter (p : Progress) (modes : Modes) : Progress :=
  { p with group := { modes := modes }, around := p.group :: p.around }

/-- The innermost group ends, if there is one to end. -/
def leave? (p : Progress) : Option Progress :=
  match p.around with
  | [] => none
  | outer :: rest =>
    some { p with group := outer.add (.element (p.group.depth + 1)), around := rest }

end Progress

/-- The modes under a flag; all flags but a few concern only what a pattern matches. -/
def Modes.switch (m : Modes) (flag : Char) (on : Bool) : Modes :=
  match flag with
  | 'u' => { m with unicode := on }
  | 'i' => { m with ignoreCase := on }
  | 'x' => { m with ignoreBlanks := on }
  | _ => m

/-- Flags up to the colon or the parenthesis that ends them: the modes they lead to, whether any is
given, the end, and the rest.  A flag is given once, and so is the dash in front of those that are
switched off; it is not the last. -/
def readFlags (m : Modes) (seen : List Char) : List Char → Option (Modes × Bool × Char × List Char)
  | [] => none
  | c :: rest =>
    if c == ':' || c == ')' then
      if seen.head? == some '-' then none else some (m, !seen.isEmpty, c, rest)
    else if seen.contains c then none
    else if c == '-' then readFlags m (c :: seen) rest
    else if ['i', 'm', 's', 'U', 'u', 'R', 'x'].contains c then
      readFlags (m.switch c (!seen.contains '-')) (c :: seen) rest
    else none

/-- Whether a character may stand in the name of a group. -/
def isNameChar (first : Bool) (c : Char) : Bool :=
  if first then c == '_' || Text.isLetter c
  else c == '_' || c == '.' || c == '[' || c == ']' || Text.isLetterOrNumber c

/-- The name of a group up to its bracket, and the rest. -/
def groupName? (s : List Char) : Option (List Char × List Char) :=
  match s.takeWhile (· != '>'), s.dropWhile (· != '>') with
  | first :: others, _ :: rest =>
    if isNameChar true first && others.all (isNameChar false) then some (first :: others, rest)
    else none
  | _, _ => none

/-- Reads the start of a named group. -/
def readNamed (p : Progress) (s : List Char) : Option (Progress × List Char) :=
  (groupName? s).bind fun (name, rest) =>
    if p.names.contains name then none
    else some ({ p with names := name :: p.names }.enter p.group.modes, rest)

/-- Reads the start of a group behind its parenthesis, or flags that stand by themselves. -/
def readGroup (p : Progress) (s : List Char) : Option (Progress × List Char) :=
  match p.group.modes.skip s with
  | '?' :: '<' :: '=' :: _ => none
  | '?' :: '<' :: '!' :: _ => none
  | '?' :: 'P' :: '<' :: rest => readNamed p rest
  | '?' :: '<' :: rest => readNamed p rest
  | '?' :: rest =>
    (readFlags p.group.modes [] rest).bind fun (modes, given, stop, rest) =>
      if stop == ':' then some (p.enter modes, rest)
      else if given then some ({ p with group := { p.group with modes := modes } }.add .flags, rest)
      else none
  | s => some (p.enter p.group.modes, s)

/-- Reads a part of a pattern that is no group. -/
def readPart (m : Modes) (c : Char) (rest : List Char) : Option (Nat × List Char) :=
  let allowed := fun (item : Item × List Char) =>
    if item.1.isAllowed m then some (0, item.2) else none
  if c == '[' then (class? m rest).map fun (extent, rest) => (extent.depth, rest)
  else if c == '\\' then (escape? m rest).bind allowed
  else if c == '^' || c == '$' then some (0, rest)
  else if c == '.' then if m.unicode then some (0, rest) else none
  else if c == '\x7b' then none
  else allowed (.char c false, rest)

/-- Reads a pattern to its end.  Every step uses up a character. -/
def read (p : Progress) : Nat → List Char → Option Progress
  | 0, _ => none
  | fuel + 1, s =>
    match p.group.modes.skip s with
    | [] => some p
    | c :: rest =>
      if c == '(' then (readGroup p rest).bind fun (p, rest) => read p fuel rest
      else if c == ')' then p.leave?.bind fun p => read p fuel rest
      else if c == '|' then read { p with group := p.group.bar } fuel rest
      else if c == '?' || c == '*' || c == '+' then
        let rest := if rest.head? == some '?' then rest.drop 1 else rest
        p.group.repeat?.bind fun group => read { p with group := group } fuel rest
      else (readPart p.group.modes c rest).bind fun (depth, rest) =>
        read (p.add (.element depth)) fuel rest

/-- How deeply patterns may be nested. -/
def depthLimit : Nat := 250

/-- Whether a text is a pattern. -/
def isPattern (s : String) : Bool :=
  match read ⟨⟨{}, [], []⟩, [], []⟩ (s.length + 1) s.toList with
  | some p => p.around.isEmpty && p.group.depth ≤ depthLimit
  | none => false

end MetricLoad.Pattern
