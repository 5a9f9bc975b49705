import MetricLoad.Document
import MetricLoad.Yaml.Document
import MetricLoad.Yaml.Scalar

/-!
# Schemas over YAML documents

A text is any scalar, taken as it is written.  Numbers and flags are plain scalars, or literal ones
with the tag of their type.  A value that is left out counts as an empty list, map or record.  A
variant is named by a tag of the document, or else by a scalar.

A reference is read as the node it stands for.  What a tag names wrongly is laid to the collection
around the node, or to the reference that leads to it.
-/

namespace MetricLoad.Yaml

open MetricLoad.Document

namespace Node

/-- What a node is, for error texts; a standard tag that misfits its scalar is wrong by itself. -/
def meaning : Node → Except FaultKind Found
  | scalar _ tag style s => scalarMeaning tag style s
  | sequence .. => .ok .sequence
  | mapping .. => .ok .mapping
  | reference .. => .ok .nothing
  | missing => .error .incomplete

/-- The text of a scalar that may stand for a number or a flag. -/
def plainText? (type : String) : Node → Option String
  | scalar _ tag style s =>
    if style == .plain || (style == .literal && tag == some (.standard type)) then some s else none
  | _ => none

/-- Whether a node is left out. -/
def isLeftOut : Node → Bool
  | scalar _ _ .plain s => s.isEmpty
  | _ => false

/-- The step to the value of an entry. -/
def stepTo : Node → PathStep
  | scalar _ _ _ name => .field name
  | _ => .nameless

/-- The entries of a mapping; a node that is left out has none. -/
def entries? : Node → Option (List (Node × Node))
  | mapping _ _ entries => some entries
  | n => if n.isLeftOut then some [] else none

/-- The items of a sequence; a node that is left out has none. -/
def items? : Node → Option (List Node)
  | sequence _ _ items => some items
  | n => if n.isLeftOut then some [] else none

end Node

namespace Part

/-- Where a part stands. -/
def place (p : Part) : Option Place :=
  some ⟨p.node.mark.line, p.node.mark.column⟩

/-- The part that stands behind a reference. -/
def enter (p : Part) : Read Part := do
  match p.node with
  | .reference _ number =>
    Read.follow
    return ((p.targets.lookup number).map p.other).getD p
  | _ => return p

/-- Tells a part from a written absence. -/
def option (p : Part) : Read (Option Part) := do
  let p ← p.enter
  match p.node with
  | .scalar _ tag .plain s =>
    if tag == some (.standard "null") then
      if isNullText s then return none
      else throw { kind := .wrongValue (.text s) "null", scope := .collection }
    else if tag.isSome then return some p
    else return if s.isEmpty || isNullText s then none else some p
  | _ => return some p

/-- The entries of a part. -/
def entries? (p : Part) : Option (List (Member Part)) :=
  p.node.entries?.map fun entries =>
    entries.map fun (name, value) => ⟨name.stepTo, p.other name, p.other value⟩

/-- What is wrong with the content of a tagged part that should have none. -/
def contentFault? (p : Part) : Option Fault :=
  let fault := fun (kind : FaultKind) => some { kind, place := p.place }
  match p.node with
  | .scalar _ _ style s =>
    if style == .plain && (s.isEmpty || isNullText s) then none
    else fault (.wrongValue (.text s) "null")
  | .sequence .. => fault (.wrongType .sequence "unit")
  | .mapping .. => fault (.wrongType .mapping "unit")
  | .reference .. => none
  | .missing => fault .incomplete

/-- The variant that a part names by its tag or by its text. -/
def choice (_ : String) (p : Part) : Read Choice := do
  let target ← p.enter
  match target.node.tag?.bind (·.localName?), target.node with
  | some name, _ =>
    let blame := fun kind => ({ kind, scope := .collection } : Fault)
    match p.node with
    | .reference .. =>
      return ⟨name, fun kind => (blame kind).leaving p.place, target.contentFault?⟩
    | _ => return ⟨name, blame, target.contentFault?⟩
  | none, .scalar _ _ _ s => return ⟨s, fun kind => { kind, place := target.place }, none⟩
  | none, node =>
    match node.meaning with
    | .ok found =>
      let kind := .wrongType found "a YAML tag starting with '!'"
      throw { kind, place := target.place }
    | .error kind => throw { kind, place := target.place }

instance : Document Part where
  place := place
  found p := p.node.meaning.toOption.getD .nothing
  mismatch expected p :=
    match p.node.meaning with
    | .ok found => .wrongType found expected
    | .error kind => kind
  enter := enter
  text? p :=
    match p.node with
    | .scalar _ _ _ s => some s
    | _ => none
  integer? p := (p.node.plainText? "int").bind fun s =>
    (unsignedOf? s.toList).bind fun v => if v < UInt64.size then some (v : Int) else none
  flag? p := (p.node.plainText? "bool").bind flagOf?
  option := option
  items? p := p.node.items?.map fun items => items.map p.other
  entries? := entries?
  members _ p := p.entries?.map .ok
  choice := choice
  isWhole p := p.node.isWhole

end Part

/-- Why a text does not give what a schema asks for. -/
inductive TextError
  | document (cause : LoadError)
  | content (cause : Fault)
  deriving DecidableEq, Repr

/-- The wording of an error. -/
def TextError.message : TextError → String
  | .document cause => cause.message
  | .content cause => cause.message

/-- Reads the document of a text.  What the schema refuses counts before what is wrong behind it in
the text. -/
def readText {α : Type} (read : Part → Read α) (text : String) : Except TextError α :=
  let document := load text
  match (read document.root).following document.referenceLimit, document.error with
  | .ok value, none => .ok value
  | .ok _, some cause => .error (.document cause)
  | .error fault, cause =>
    match fault.kind, cause with
    | .incomplete, some cause => .error (.document cause)
    | _, _ => .error (.content fault)

end MetricLoad.Yaml
