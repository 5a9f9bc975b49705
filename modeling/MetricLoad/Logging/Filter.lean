import MetricLoad.Logging.FieldValue
import MetricLoad.Logging.Level
import MetricLoad.Text.Split

/-!
# Log filters

A filter is a list of directives, separated by commas.  A directive names a target, a span, a
field of spans, a level, or several of these: `info`, `net=warn`,
`net[request\x7buser=bob\x7d]=debug`.  Without a level it lets everything through.  Directives
that cannot be read are passed over, and of two for the same target, span and field the later one
counts.

Where the parts of a directive end is found in the text without the blanks around it; the parts are
then cut at these positions out of the text with the blanks.

The variable for log filters may hold a plain level instead.  Then it only replaces the configured
level, and the standard directives stay.
-/

namespace MetricLoad.Logging

/-- A field of spans, with the value it must have if any. -/
structure FieldFilter where
  name : String
  value : Option FieldValue
  deriving DecidableEq, Repr

/-- A directive of a filter. -/
structure Directive where
  target : Option String := none
  span : Option String := none
  field : Option FieldFilter := none
  level : Level := .trace
  deriving DecidableEq, Repr

namespace FieldFilter

/-- The field that a text stands for, unless its value cannot be read. -/
def ofText? (s : String) : Option FieldFilter :=
  match s.splitOn "=" with
  | name :: value :: _ => (FieldValue.ofText? value).map fun value => ⟨name, some value⟩
  | _ => some ⟨s, none⟩

/-- The text of a field. -/
def text (f : FieldFilter) : String :=
  match f.value with
  | none => f.name
  | some value => f.name ++ "=" ++ value.text

/-- Whether two filters are about the same fields. -/
def same (a b : FieldFilter) : Bool :=
  a.name == b.name && match a.value, b.value with
    | none, none => true
    | some x, some y => x.same y
    | _, _ => false

end FieldFilter

namespace Directive

/-- Whether the name of a target may begin with a character. -/
def beginsTarget (c : Char) : Bool :=
  c == '-' || c == ':' || c == '_' || Text.isLetterOrNumber c

/-- The part of a text between two positions, counted in bytes. -/
def cut? (s : List Char) (start stop : Nat) : Option String := do
  let (_, behind) ← Text.splitBytes? start s
  let (taken, _) ← Text.splitBytes? (stop - start) behind
  return String.ofList taken

/-- The part of a text from a position on. -/
def cutFrom? (s : List Char) (start : Nat) : Option String :=
  (Text.splitBytes? start s).map fun (_, behind) => String.ofList behind

/-- A place in a text: what follows, and its position in bytes. -/
structure Spot where
  rest : List Char
  position : Nat

/-- The first of some characters from a place on: where it stands, and the place behind it. -/
def Spot.seek? (s : Spot) (stops : List Char) : Option (Nat × Char × Spot) :=
  let stop := s.position + Text.byteCount (s.rest.takeWhile fun c => !stops.contains c)
  match s.rest.dropWhile fun c => !stops.contains c with
  | [] => none
  | c :: rest => some (stop, c, ⟨rest, stop + c.utf8Size⟩)

/-- Reads the level behind an equals sign; an empty text stands for everything. -/
def withLevel? (d : Directive) (s : String) : Option Directive :=
  if s.isEmpty then some d else (Level.ofText? s).map fun level => { d with level := level }

/-- Reads on behind a span. -/
def afterSpan? (whole : List Char) (d : Directive) (s : Spot) : Option Directive :=
  match s.rest with
  | [] => some d
  | '=' :: _ => (cutFrom? whole (s.position + 1)).bind d.withLevel?
  | _ => none

/-- Reads the field of a span and on behind the span. -/
def withField? (whole : List Char) (d : Directive) (s : Spot) : Option Directive := do
  let (stop, _, behind) ← s.seek? ['\x7d']
  let content ← cut? whole s.position stop
  match behind.rest with
  | ']' :: rest =>
    if content.isEmpty then none
    else
      let field ← FieldFilter.ofText? content
      afterSpan? whole { d with field := some field } ⟨rest, behind.position + 1⟩
  | _ => none

/-- Reads a span and on behind it. -/
def withSpan? (whole : List Char) (d : Directive) (s : Spot) : Option Directive := do
  let (stop, c, behind) ← s.seek? [']', '\x7b']
  let span ← cut? whole s.position stop
  if c == ']' then afterSpan? whole { d with span := some span } behind
  else
    let span := if span.isEmpty then none else some span
    withField? whole { d with span := span } behind

/-- The directive of a text without a mark: a level if it is one, and else a target. -/
def plain (s : String) : Directive :=
  match Level.ofText? s with
  | some level => { level := level }
  | none => { target := some s }

/-- The directive that a text stands for. -/
def ofText? (s : String) : Option Directive :=
  let whole := s.toList
  match Text.trim whole with
  | [] => none
  | '[' :: rest => withSpan? whole {} ⟨rest, 1⟩
  | first :: rest =>
    if !beginsTarget first then none
    else match Spot.seek? ⟨rest, first.utf8Size⟩ ['=', '['] with
      | none => some (plain s)
      | some (stop, c, behind) => do
        let d : Directive := { target := some (← cut? whole 0 stop) }
        if c == '=' then (cutFrom? whole behind.position).bind d.withLevel?
        else withSpan? whole d behind

/-- The text of a directive. -/
def text (d : Directive) : String :=
  let inside := d.span.getD "" ++
    ((d.field.map fun f => "\x7b" ++ f.text ++ "\x7d").getD "")
  let bracketed := if d.span.isSome || d.field.isSome then "[" ++ inside ++ "]" else ""
  let scope := d.target.getD "" ++ bracketed
  if d.target.isNone && bracketed.isEmpty then d.level.name else scope ++ "=" ++ d.level.name

/-- Whether a directive looks at the spans around a record. -/
def isDynamic (d : Directive) : Bool :=
  d.span.isSome || d.field.isSome

/-- Whether a directive can be decided from where a record comes from alone. -/
def isStatic (d : Directive) : Bool :=
  d.span.isNone && (d.field.bind (·.value)).isNone

/-- Whether two directives are about the same records. -/
def sameScope (a b : Directive) : Bool :=
  a.target == b.target && a.span == b.span && match a.field, b.field with
    | none, none => true
    | some f, some g => f.same g
    | _, _ => false

end Directive

/-- The directives of a list that no later one replaces. -/
def effective : List Directive → List Directive
  | [] => []
  | d :: rest => if rest.any d.sameScope then effective rest else d :: effective rest

/-- The directives of a filter: the static ones and then the dynamic ones, of which some are both.
Without any, errors are let through. -/
def directives (filter : String) : List Directive :=
  let read := ((filter.splitOn ",").filter fun part => !part.isEmpty).filterMap Directive.ofText?
  if read.isEmpty then [{ level := .error }]
  else
    let statics := read.filter (!·.isDynamic) ++ read.filter fun d => d.isDynamic && d.isStatic
    effective statics ++ effective (read.filter (·.isDynamic))

/-- The directives that hold unless the variable gives others. -/
def standardDirectives : List Directive :=
  { level := .info } ::
    [("hickory_proto", Level.warn), ("hickory_resolver", .warn), ("benchtool", .trace),
      ("benchtool_cli", .trace), ("benchtool_engine", .trace)].map
        fun (target, level) => { target := some target, level := level }

/-- The level and the directives for a configured level and the variable for log filters. -/
def effectiveFilter (configured : Level) : Option String → Level × List Directive
  | none => (configured, standardDirectives)
  | some value =>
    match Level.ofText? value with
    | some level => (level, standardDirectives)
    | none => (.trace, directives value)

end MetricLoad.Logging
