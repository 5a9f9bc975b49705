import MetricLoad.Document.Fault
import MetricLoad.Duration.Text

/-!
# Reading values out of documents

A schema is read in the same way from every form of document.  `Document` is what a form offers:
views of a value as a text, a number, a list and so on.  The readers built on them say what was
expected where a view is missing.  A record is read member by member in the order of the document
into a draft, so of two faults the one that stands first is reported.

A form of document may let a value stand for another one that is written elsewhere.  Readers follow
such references one by one, and only so many of them in a document.
-/

namespace MetricLoad

namespace Document

/-- Reading a part of a document: it may fail, and the number is how many references may still be
followed. -/
abbrev Read (α : Type) := StateT Nat (Except Fault) α

namespace Read

variable {α : Type}

/-- The outcome of a reading that may follow a number of references. -/
def following (references : Nat) (read : Read α) : Except Fault α :=
  (read references).map (·.1)

/-- The outcome of a reading in a form of document without references. -/
def outcome (read : Read α) : Except Fault α :=
  read.following 0

/-- A reading whose fault is changed on the way out. -/
def changing (change : Fault → Fault) (read : Read α) : Read α := fun references =>
  (read references).mapError change

/-- Spends a reference. -/
def follow : Read PUnit := fun references =>
  match references with
  | 0 => .error { kind := .tooManyReferences, scope := .document }
  | left + 1 => .ok (⟨⟩, left)

end Read

/-- A member of a collection: how it is reached, its name and its value. -/
structure Member (δ : Type) where
  step : PathStep
  name : δ
  value : δ

/-- A variant as it is written. -/
structure Choice where
  name : String
  /-- The fault of a name that names no variant. -/
  blame : FaultKind → Fault
  /-- What is wrong with the content beside the name of a variant that has none. -/
  content : Option Fault := none

end Document

open Document in
/-- A form of document. -/
class Document (δ : Type) where
  /-- Where a value stands in the text, if that is known. -/
  place : δ → Option Place
  /-- What a value is, for error texts. -/
  found : δ → Found
  /-- What is wrong with a value of another type than was expected. -/
  mismatch : String → δ → FaultKind := fun expected d => .wrongType (found d) expected
  /-- The value that stands behind a reference; any other value is itself. -/
  enter : δ → Read δ := pure
  text? : δ → Option String
  integer? : δ → Option Int
  flag? : δ → Option Bool
  /-- Tells a value from the written absence of one. -/
  option : δ → Read (Option δ)
  items? : δ → Option (List δ)
  /-- The entries of a map, in order. -/
  entries? : δ → Option (List (Member δ))
  /-- The members of a record with the given field names, or none when the value has not the form of
  a record. -/
  members : List String → δ → Option (Except FaultKind (List (Member δ)))
  /-- The variant that a value names, where one of the type with a title is expected. -/
  choice : String → δ → Read Choice
  /-- Whether a value is there to its end. -/
  isWhole : δ → Bool := fun _ => true

namespace Document

variable {δ α β : Type} [Document δ]

/-- A fault at a value. -/
def faultAt (d : δ) (kind : FaultKind) : Fault :=
  { kind, place := place d }

/-- The fault of a value of the wrong type. -/
def wrongType (expected : String) (d : δ) : Fault :=
  faultAt d (mismatch expected d)

/-- A value or the fault of its absence. -/
def orFault (fault : Fault) : Option α → Read α
  | some a => pure a
  | none => throw fault

/-- Reads a text. -/
def text (expected : String) (d : δ) : Read String := do
  let d ← enter d
  orFault (wrongType expected d) (text? d)

/-- Reads a flag. -/
def flag (d : δ) : Read Bool := do
  let d ← enter d
  orFault (wrongType "a boolean" d) (flag? d)

/-- Reads an unsigned number below a bound. -/
def natural (expected : String) (bound : Nat) (d : δ) : Read Nat := do
  let d ← enter d
  match integer? d with
  | none => throw (wrongType expected d)
  | some n =>
    if 0 ≤ n ∧ n.toNat < bound then return n.toNat
    else throw (faultAt d (.wrongValue (found d) expected))

/-- Reads an unsigned 64-bit number. -/
def size (d : δ) : Read UInt64 :=
  return (← natural "usize" UInt64.size d).toUInt64

/-- Reads an unsigned 32-bit number. -/
def word (d : δ) : Read UInt32 :=
  return (← natural "u32" UInt32.size d).toUInt32

/-- Reads a duration from its text. -/
def duration (d : δ) : Read Duration := do
  let d ← enter d
  let content ← text "a duration" d
  orFault (faultAt d (.wrongValue (.text content) "a duration")) (Duration.ofText? content)

/-- Reads a value that may be given as absent. -/
def optional (read : δ → Read α) (d : δ) : Read (Option α) := do
  match ← option d with
  | none => return none
  | some content => return some (← read content)

/-- Reads the items from a position on. -/
def readItems (read : δ → Read α) : Nat → List δ → Read (List α)
  | _, [] => pure []
  | index, item :: rest => do
    let value ← (read item).changing (·.under (.item index))
    let values ← readItems read (index + 1) rest
    return value :: values

/-- Reads what stands in a collection. -/
def inside (d : δ) (read : Read α) : Read α :=
  read.changing (·.leaving (place d))

/-- Reads a list. -/
def list (read : δ → Read α) (d : δ) : Read (List α) := do
  let d ← enter d
  match items? d with
  | some items => inside d (readItems read 0 items)
  | none => throw (wrongType "a sequence" d)

/-- Reads the entries of a map from texts to values. -/
def readEntries (read : δ → Read α) : List (Member δ) → Read (List (String × α))
  | [] => pure []
  | entry :: rest => do
    let name ← text "a string" entry.name
    let value ← (read entry.value).changing (·.under entry.step)
    let entries ← readEntries read rest
    return (name, value) :: entries

/-- Reads a map from texts to values; its entries keep their order. -/
def map (read : δ → Read α) (d : δ) : Read (List (String × α)) := do
  let d ← enter d
  match entries? d with
  | some entries => inside d (readEntries read entries)
  | none => throw (wrongType "a map" d)

/-- Reads the name of one of some variants without content. -/
def variant (title : String) (names : List String) (d : δ) : Read String := do
  let c ← choice title d
  if !names.contains c.name then throw (c.blame (.unknownVariant c.name names))
  match c.content with
  | none => return c.name
  | some fault => throw fault

/-- How a record is read. -/
structure Record (δ β α : Type) where
  /-- The name of the record in error texts. -/
  title : String
  /-- The names of its fields in order. -/
  fields : List String
  /-- The draft before any member has been read. -/
  start : β
  /-- Reads a field into the draft. -/
  step : β → String → δ → Read β
  /-- Completes the draft when there are no more members. -/
  finish : β → Except FaultKind α

/-- Passes over a value; it must be there to its end. -/
def ignore (d : δ) : Read PUnit :=
  if isWhole d then pure ⟨⟩ else throw (faultAt d .incomplete)

/-- Reads members one after the other into a draft.  Members with unknown names are passed over. -/
def Record.readMembers (r : Record δ β α) (whole : δ) :
    List String → β → List (Member δ) → Read β
  | _, draft, [] => pure draft
  | seen, draft, member :: rest => do
    let name ← text "field identifier" member.name
    if !r.fields.contains name then
      ignore member.value
      r.readMembers whole seen draft rest
    else if seen.contains name then throw (faultAt whole (.repeatedField name))
    else
      let draft ← (r.step draft name member.value).changing (·.under member.step)
      r.readMembers whole (name :: seen) draft rest

/-- The fault of a draft that cannot be completed.  A record that is written as a list of its fields
is too short when one of them is missing. -/
def Record.shortFault (r : Record δ β α) (d : δ) (kind : FaultKind) : Fault :=
  match entries? d, kind with
  | none, .missingField name =>
    faultAt d (.wrongLength (r.fields.idxOf name)
      ("struct " ++ r.title ++ " with " ++ toString r.fields.length ++ " elements"))
  | _, _ => faultAt d kind

/-- Completes the draft of a record. -/
def Record.complete (r : Record δ β α) (d : δ) (draft : β) : Read α :=
  match r.finish draft with
  | .ok value => pure value
  | .error kind => throw (r.shortFault d kind)

/-- Reads a record. -/
def Record.read (r : Record δ β α) (d : δ) : Read α := do
  let d ← enter d
  match members r.fields d with
  | none => throw (wrongType ("struct " ++ r.title) d)
  | some (.error kind) => throw (faultAt d kind)
  | some (.ok members) =>
    r.complete d (← inside d (r.readMembers d [] r.start members))

/-- The value of a field that must be given. -/
def required (name : String) : Option α → Except FaultKind α
  | some a => .ok a
  | none => .error (.missingField name)

end Document
end MetricLoad
