import MetricLoad.Document
import MetricLoad.Settings.Value

/-!
# Schemas over values of settings

A record is a table, or a list of its fields in order of declaration.  Numbers are not texts, and
texts are not numbers; a single character is a text.  Nothing is the absence of a value, and never
an empty list, table or record.
-/

namespace MetricLoad.Setting

open MetricLoad.Document

/-- What a scalar is, for error texts. -/
def foundScalar : Scalar → Found
  | .nothing => .nothing
  | .flag value => .flag value
  | .unsigned value => .unsigned value
  | .signed value => .signed value
  | .real bits => .real bits
  | .character value => .text (String.singleton value)
  | .text value => .text value

/-- What a value is, for error texts. -/
def found : Setting → Found
  | scalar _ content => foundScalar content
  | list .. => .sequence
  | table .. => .mapping

/-- The text of a value. -/
def text? : Setting → Option String
  | scalar _ (.text value) => some value
  | scalar _ (.character value) => some (String.singleton value)
  | _ => none

/-- The number that a value is, if it fits 64 bits. -/
def integer? : Setting → Option Int
  | scalar _ (.unsigned value) => if value < UInt64.size then some (value : Int) else none
  | scalar _ (.signed value) => if -9223372036854775808 ≤ value then some value else none
  | _ => none

/-- The flag that a value is. -/
def flag? : Setting → Option Bool
  | scalar _ (.flag value) => some value
  | _ => none

/-- A value that is not nothing. -/
def present : Setting → Option Setting
  | scalar _ .nothing => none
  | value => some value

/-- The name of an entry as a value. -/
def ofName (name : String) : Setting :=
  scalar .environment (.text name)

/-- The members of a record; further items of a list are passed over. -/
def recordMembers (fields : List String) :
    Setting → Option (Except FaultKind (List (Member Setting)))
  | table _ entries =>
    some (.ok (entries.map fun (name, value) => ⟨.field name, ofName name, value⟩))
  | list _ items =>
    some (.ok ((fields.zip items).mapIdx fun index (name, item) =>
      ⟨.item index, ofName name, item⟩))
  | scalar .. => none

/-- What is wrong with content that should be nothing. -/
def contentFault? : Setting → Option Fault
  | scalar _ .nothing => none
  | content => some { kind := .wrongType content.found "unit" }

/-- The variant that a value names; a table names it by its first entry, and must have one. -/
def choice (title : String) : Setting → Read Choice
  | scalar _ (.text name) => pure ⟨name, fun kind => { kind }, none⟩
  | table _ [] => throw { kind := .wrongType .mapping "enum" }
  | table _ ((name, content) :: _) =>
    let within := fun (f : Fault) => f.under (.field name)
    pure ⟨name, fun kind => within { kind }, (contentFault? content).map within⟩
  | value => throw { kind := .wrongType value.found title }

instance : Document Setting where
  place _ := none
  found := found
  text? := text?
  integer? := integer?
  flag? := flag?
  option value := pure value.present
  items?
    | list _ items => some items
    | _ => none
  entries?
    | table _ entries =>
      some (entries.map fun (name, value) => ⟨.field name, ofName name, value⟩)
    | _ => none
  members := recordMembers
  choice := choice

end MetricLoad.Setting
