import MetricLoad.Yaml.Event

/-!
# Nodes of YAML documents

The events of a text are put together into nodes.  A node is a scalar, a sequence or a mapping, or a
reference to an anchored node.  A mapping keeps all its entries in order.  Where a text breaks off,
the node that would follow is missing.
-/

namespace MetricLoad.Yaml

/-- A node of a document. -/
inductive Node
  | scalar (mark : Mark) (tag : Option Tag) (style : ScalarStyle) (text : String)
  | sequence (mark : Mark) (tag : Option Tag) (items : List Node)
  | mapping (mark : Mark) (tag : Option Tag) (entries : List (Node × Node))
  /-- The node of the anchor with a number. -/
  | reference (mark : Mark) (number : Nat)
  | missing
  deriving Repr, Inhabited

namespace Node

/-- Where a node begins. -/
def mark : Node → Mark
  | scalar mark _ _ _ => mark
  | sequence mark _ _ => mark
  | mapping mark _ _ => mark
  | reference mark _ => mark
  | missing => ⟨0, 0, 0⟩

/-- The tag of a node. -/
def tag? : Node → Option Tag
  | scalar _ tag _ _ => tag
  | sequence _ tag _ => tag
  | mapping _ tag _ => tag
  | reference _ _ => none
  | missing => none

mutual

/-- Whether no part of a node is missing. -/
def isWhole : Node → Bool
  | scalar .. => true
  | sequence _ _ items => areWhole items
  | mapping _ _ entries => areWholeEntries entries
  | reference .. => true
  | missing => false

/-- Whether no part of some items is missing. -/
def areWhole : List Node → Bool
  | [] => true
  | item :: rest => item.isWhole && areWhole rest

/-- Whether no part of some entries is missing. -/
def areWholeEntries : List (Node × Node) → Bool
  | [] => true
  | (key, value) :: rest => key.isWhole && value.isWhole && areWholeEntries rest

end

mutual

/-- The node with which some events begin, and the events behind it. -/
def ofEvents : Nat → List Event → Node × List Event
  | 0, events => (missing, events)
  | _ + 1, [] => (missing, [])
  | fuel + 1, event :: rest =>
    match event with
    | .scalar mark tag style text => (scalar mark tag style text, rest)
    | .sequenceStart mark tag =>
      let (items, rest) := itemsOfEvents fuel rest
      (sequence mark tag items, rest)
    | .mappingStart mark tag =>
      let (entries, rest) := entriesOfEvents fuel rest
      (mapping mark tag entries, rest)
    | .collectionEnd => (missing, rest)
    | .reference mark number => (reference mark number, rest)

/-- The items up to the end of a sequence, and the events behind it. -/
def itemsOfEvents : Nat → List Event → List Node × List Event
  | 0, events => ([], events)
  | _ + 1, [] => ([missing], [])
  | _ + 1, .collectionEnd :: rest => ([], rest)
  | fuel + 1, events =>
    let (item, rest) := ofEvents fuel events
    let (items, rest) := itemsOfEvents fuel rest
    (item :: items, rest)

/-- The entries up to the end of a mapping, and the events behind it. -/
def entriesOfEvents : Nat → List Event → List (Node × Node) × List Event
  | 0, events => ([], events)
  | _ + 1, [] => ([(missing, missing)], [])
  | _ + 1, .collectionEnd :: rest => ([], rest)
  | fuel + 1, events =>
    let (key, rest) := ofEvents fuel events
    let (value, rest) := ofEvents fuel rest
    let (entries, rest) := entriesOfEvents fuel rest
    ((key, value) :: entries, rest)

end

/-- The node that begins with the first of some events. -/
def first (events : List Event) : Node :=
  (ofEvents (2 * events.length + 2) events).1

end Node
end MetricLoad.Yaml
