import MetricLoad.Document
import MetricLoad.Json

/-!
# Schemas over JSON values

A record is an object, or an array of its fields in order of declaration of which some may be left
out at the end.  A variant without content is its name, or an object that gives its name the value
`null`.  Only `null` is the absence of a value.
-/

namespace MetricLoad.Json

open MetricLoad.Document

/-- What a value is, for error texts. -/
def found : Json → Found
  | .null => .nothing
  | .bool value => .flag value
  | .integer value => if 0 ≤ value then .unsigned value.toNat else .signed value
  | .real bits => .real bits
  | .text value => .text value
  | .array _ => .sequence
  | .object _ => .mapping
  | .unreadable => .nothing

/-- The members of a record. -/
def recordMembers (fields : List String) : Json → Option (Except FaultKind (List (Member Json)))
  | .object members =>
    some (.ok (members.map fun (name, value) => ⟨.field name, .text name, value⟩))
  | .array items =>
    if items.length ≤ fields.length then
      some (.ok ((fields.zip items).mapIdx fun index (name, item) =>
        ⟨.item index, .text name, item⟩))
    else some (.error (.wrongLength items.length "fewer elements in array"))
  | _ => none

/-- What is wrong with content that should be nothing. -/
def contentFault? : Json → Option Fault
  | .null => none
  | content => some { kind := .wrongType (found content) "unit" }

/-- The variant that a value names. -/
def choice (title : String) : Json → Read Choice
  | .text name => pure ⟨name, fun kind => { kind }, none⟩
  | .object [(name, content)] =>
    let within := fun (f : Fault) => f.under (.field name)
    pure ⟨name, fun kind => within { kind }, (contentFault? content).map within⟩
  | value => throw { kind := .wrongType (found value) title }

instance : Document Json where
  place _ := none
  found := found
  text?
    | .text value => some value
    | _ => none
  integer?
    | .integer value => some value
    | _ => none
  flag?
    | .bool value => some value
    | _ => none
  option
    | .null => pure none
    | value => pure (some value)
  items?
    | .array items => some items
    | _ => none
  entries?
    | .object members =>
      some (members.map fun (name, value) => ⟨.field name, .text name, value⟩)
    | _ => none
  members := recordMembers
  choice := choice

end MetricLoad.Json
