import MetricLoad.Pattern.Escape

/-!
# Classes in brackets

A class lists characters, ranges, named classes and other classes, and may be combined from several
such lists.  Unless patterns are about Unicode, a class must hold characters of ASCII only, or
rather no others when it has been negated.  To know this it suffices to know of every part whether
it holds the others, since it holds all of them or none.
-/

namespace MetricLoad.Pattern

/-- What matters about a set of characters. -/
structure Extent where
  /-- Whether characters beyond ASCII are in it. -/
  beyond : Bool := false
  /-- How deeply its parts are nested. -/
  depth : Nat := 0
  deriving DecidableEq, Repr

/-- The depth around several parts. -/
def depthAround (depths : List Nat) : Nat :=
  depths.foldl max 0 + 1

/-- The extent of several parts together. -/
def Extent.union : List Extent → Extent
  | [] => {}
  | [only] => only
  | parts => ⟨parts.any (·.beyond), depthAround (parts.map (·.depth))⟩

/-- An operation on two classes. -/
inductive ClassOp
  | intersection
  | difference
  | symmetricDifference
  deriving DecidableEq, Repr

/-- The extent of two classes under an operation. -/
def ClassOp.apply (op : ClassOp) (a b : Extent) : Extent :=
  let beyond := match op with
    | .intersection => a.beyond && b.beyond
    | .difference => a.beyond && !b.beyond
    | .symmetricDifference => a.beyond != b.beyond
  ⟨beyond, depthAround [a.depth, b.depth]⟩

/-- A class under construction: what stands in front of the last operation, and the parts behind
it. -/
structure OpenClass where
  negated : Bool
  before : Option (ClassOp × Extent) := none
  parts : List Extent := []

namespace OpenClass

/-- The class with one more part. -/
def add (c : OpenClass) (part : Extent) : OpenClass :=
  { c with parts := part :: c.parts }

/-- The extent of all that has been read. -/
def extent (c : OpenClass) : Extent :=
  let last := Extent.union c.parts
  match c.before with
  | none => last
  | some (op, first) => op.apply first last

/-- The class behind an operation. -/
def combine (c : OpenClass) (op : ClassOp) : OpenClass :=
  ⟨c.negated, some (op, c.extent), []⟩

/-- The extent of the finished class, when it is allowed. -/
def close? (m : Modes) (c : OpenClass) : Option Extent :=
  let inner := c.extent
  let beyond := inner.beyond != c.negated
  if m.unicode || !beyond then some ⟨beyond, inner.depth + 1⟩ else none

end OpenClass

/-- The names of classes of ASCII characters. -/
def classNames : List String :=
  ["alnum", "alpha", "ascii", "blank", "cntrl", "digit", "graph", "lower", "print", "punct",
    "space", "upper", "word", "xdigit"]

/-- The named class behind a bracket, with the rest. -/
def namedClass? (s : List Char) : Option (Extent × List Char) :=
  match s with
  | ':' :: rest =>
    let (negated, rest) := match rest with
      | '^' :: rest => (true, rest)
      | rest => (false, rest)
    let name := String.ofList (rest.takeWhile (· != ':'))
    match rest.dropWhile (· != ':') with
    | ':' :: ']' :: rest => if classNames.contains name then some (⟨negated, 0⟩, rest) else none
    | _ => none
  | _ => none

/-- Dashes at the start of a class, which stand for themselves. -/
def leadingDashes (m : Modes) (c : OpenClass) (s : List Char) : OpenClass × List Char :=
  match s with
  | '-' :: rest => leadingDashes m (c.add {}) (m.skip rest)
  | s => (c, s)
termination_by s.length
decreasing_by
  have := m.length_skip_le rest
  simp only [List.length_cons]
  omega

/-- The start of a class behind its bracket: a mark of negation, dashes, and a closing bracket that
stands for itself. -/
def openClass (m : Modes) (s : List Char) : OpenClass × List Char :=
  let (c, s) := match m.skip s with
    | '^' :: rest => (OpenClass.mk true none [], m.skip rest)
    | s => (OpenClass.mk false none [], s)
  let (c, s) := leadingDashes m c s
  match c.parts, s with
  | [], ']' :: rest => (c.add {}, m.skip rest)
  | _, s => (c, s)

/-- An item of a class, and the rest. -/
def classItem? (m : Modes) : List Char → Option (Item × List Char)
  | [] => none
  | '\\' :: rest => escape? m rest
  | c :: rest => some (.char c false, rest)

/-- The next character behind gaps, as the end of a range is looked for.  A comment is looked into
here. -/
def peekBehind (m : Modes) (s : List Char) : Option Char :=
  if m.ignoreBlanks then
    match s.dropWhile Text.isBlank with
    | '#' :: rest => ((rest.dropWhile Text.isBlank).head?).or s.head?
    | [] => s.head?
    | c :: _ => some c
  else s.head?

/-- An item or a range of a class, and the rest. -/
def classRange? (m : Modes) (s : List Char) : Option (List Char) :=
  (classItem? m s).bind fun (first, rest) =>
    let single := if first.isAllowedInClass m then some (m.skip rest) else none
    match m.skip rest with
    | '-' :: behind =>
      let next := peekBehind m behind
      if next == some ']' || next == some '-' then single
      else (classItem? m (m.skip behind)).bind fun (last, rest) =>
        match first, last with
        | .char a _, .char b _ =>
          if a ≤ b && first.isAllowedInClass m && last.isAllowedInClass m then some rest else none
        | _, _ => none
    | _ => single

/-- Reads a class up to its closing bracket.  Every step uses up a character. -/
def readClass (m : Modes) : Nat → OpenClass → List Char → Option (Extent × List Char)
  | 0, _, _ => none
  | fuel + 1, c, s =>
    match m.skip s with
    | [] => none
    | ']' :: rest => (c.close? m).map fun extent => (extent, rest)
    | '[' :: rest =>
      match namedClass? rest with
      | some (part, rest) => readClass m fuel (c.add part) rest
      | none =>
        let (inner, rest) := openClass m rest
        (readClass m fuel inner rest).bind fun (part, rest) => readClass m fuel (c.add part) rest
    | '&' :: '&' :: rest => readClass m fuel (c.combine .intersection) rest
    | '-' :: '-' :: rest => readClass m fuel (c.combine .difference) rest
    | '~' :: '~' :: rest => readClass m fuel (c.combine .symmetricDifference) rest
    | s => (classRange? m s).bind fun rest => readClass m fuel (c.add {}) rest

/-- The class behind a bracket, and the rest. -/
def class? (m : Modes) (s : List Char) : Option (Extent × List Char) :=
  let (c, rest) := openClass m s
  readClass m (s.length + 1) c rest

end MetricLoad.Pattern
