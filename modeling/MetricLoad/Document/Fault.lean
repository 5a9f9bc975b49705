import MetricLoad.Decimal.Shortest
import MetricLoad.Text.Quoted

/-!
# What can be wrong in a document

A document that can be read may still not say what a schema asks for.  A fault names what is wrong,
the path of fields and positions that leads there, and, where the form of the document knows it, the
place in the text.  Some faults are laid to the collection around the value where they are met, and
some to the document as a whole.
-/

namespace MetricLoad.Document

/-- What a reader met instead of what it asked for. -/
inductive Found
  | flag (value : Bool)
  | unsigned (value : Nat)
  | signed (value : Int)
  /-- A number with a fraction, as the bits of a double. -/
  | real (bits : UInt64)
  | text (value : String)
  | nothing
  | sequence
  | mapping
  deriving DecidableEq, Repr

/-- A plain decimal form of a double, with at least one digit behind the point. -/
def plainNumber : Decimal.Layout := ⟨none, none, true⟩

/-- The description of what was found. -/
def Found.description : Found → String
  | flag value => "boolean \x60" ++ (if value then "true" else "false") ++ "\x60"
  | unsigned value =>
    if value < UInt64.size then "integer \x60" ++ toString value ++ "\x60"
    else "integer \x60" ++ toString value ++ "\x60 as u128"
  | signed value =>
    if -9223372036854775808 ≤ value then "integer \x60" ++ toString value ++ "\x60"
    else "integer \x60" ++ toString value ++ "\x60 as i128"
  | real bits => "floating point \x60" ++ plainNumber.float (Float.ofBits bits) ++ "\x60"
  | text value => "string " ++ Text.quoted value
  | nothing => "unit value"
  | sequence => "sequence"
  | mapping => "map"

/-- What is wrong. -/
inductive FaultKind
  | wrongType (found : Found) (expected : String)
  | wrongValue (found : Found) (expected : String)
  | wrongLength (length : Nat) (expected : String)
  | unknownVariant (name : String) (expected : List String)
  | missingField (name : String)
  | repeatedField (name : String)
  /-- A value of the right type that is refused for a reason of its own. -/
  | refused (reason : String)
  /-- The text breaks off where a value should stand. -/
  | incomplete
  /-- Collections are nested too deeply. -/
  | tooDeep
  /-- References are followed too often. -/
  | tooManyReferences
  deriving DecidableEq, Repr

/-- A word between backticks. -/
def ticked (word : String) : String :=
  "\x60" ++ word ++ "\x60"

/-- The names to choose from, in words. -/
def oneOf : List String → String
  | [] => "there are no variants"
  | [a] => "expected " ++ ticked a
  | [a, b] => "expected " ++ ticked a ++ " or " ++ ticked b
  | names => "expected one of " ++ ", ".intercalate (names.map ticked)

/-- The wording of what is wrong. -/
def FaultKind.text : FaultKind → String
  | wrongType found expected => "invalid type: " ++ found.description ++ ", expected " ++ expected
  | wrongValue found expected => "invalid value: " ++ found.description ++ ", expected " ++ expected
  | wrongLength length expected =>
    "invalid length " ++ toString length ++ ", expected " ++ expected
  | unknownVariant name expected => "unknown variant " ++ ticked name ++ ", " ++ oneOf expected
  | missingField name => "missing field " ++ ticked name
  | repeatedField name => "duplicate field " ++ ticked name
  | refused reason => reason
  | incomplete => "end of text"
  | tooDeep => "recursion limit exceeded"
  | tooManyReferences => "repetition limit exceeded"

/-- A step from a value to a part of it. -/
inductive PathStep
  | field (name : String)
  | item (index : Nat)
  /-- A member whose name is no text. -/
  | nameless
  deriving DecidableEq, Repr

/-- A place in a text, line and column counted from zero. -/
structure Place where
  line : Nat
  column : Nat
  deriving DecidableEq, Repr

/-- What a fault is laid to. -/
inductive Scope
  /-- The value at the end of the path. -/
  | value
  /-- The collection around the value; which one that is has still to be told. -/
  | collection
  /-- The document, whatever the path. -/
  | document
  deriving DecidableEq, Repr

/-- Something wrong at the end of a path. -/
structure Fault where
  kind : FaultKind
  path : List PathStep := []
  place : Option Place := none
  scope : Scope := .value
  deriving DecidableEq, Repr

namespace Fault

/-- The fault seen from the value around it. -/
def under (step : PathStep) (f : Fault) : Fault :=
  match f.scope with
  | .value => { f with path := step :: f.path }
  | _ => f

/-- The fault as it leaves a collection at a place. -/
def leaving (place : Option Place) (f : Fault) : Fault :=
  match f.scope with
  | .collection => ⟨f.kind, [], place, .value⟩
  | _ => f

/-- The path in the notation `a[0].b`; a point alone is the root. -/
def pathText : List PathStep → String
  | [] => "."
  | first :: rest => rest.foldl extend (begin first)
where
  /-- The text of a path of one step. -/
  begin : PathStep → String
    | .item index => ".[" ++ toString index ++ "]"
    | .field name => name
    | .nameless => "?"
  /-- The text of a path with one more step. -/
  extend (text : String) : PathStep → String
    | .item index => text ++ "[" ++ toString index ++ "]"
    | .field name => text ++ "." ++ name
    | .nameless => text ++ ".?"

/-- The path with a dot before every step but the first. -/
def dottedPath (path : List PathStep) : String :=
  ".".intercalate (path.map fun step => match step with
    | .field name => name
    | .item index => toString index
    | .nameless => "?")

/-- The wording of a fault: the path, what is wrong, and the place. -/
def message (f : Fault) : String :=
  let path := pathText f.path
  let path := if path == "." then "" else path ++ ": "
  let place := match f.place with
    | none => ""
    | some p =>
      if p.line == 0 && p.column == 0 then ""
      else " at line " ++ toString (p.line + 1) ++ " column " ++ toString (p.column + 1)
  path ++ f.kind.text ++ place

end Fault
end MetricLoad.Document
