import MetricLoad.Yaml.Node

/-!
# Documents

A document is its root node, as far as the text can be read.  A node that refers to another one is
looked up in a table of the anchored nodes, so a part of a document is a node with that table.  The
table is finite though a document may lead back into itself.
-/

namespace MetricLoad.Yaml

/-- A node of a document with the nodes of its anchors. -/
structure Part where
  targets : List (Nat × Node)
  node : Node

/-- Another node of the same document. -/
def Part.other (p : Part) (node : Node) : Part :=
  { p with node := node }

/-- A document as far as its text can be read. -/
structure Loaded where
  root : Part
  /-- What is wrong behind the nodes. -/
  error : Option LoadError
  /-- The number of events. -/
  size : Nat

/-- The document of some events. -/
def EventRun.document (r : EventRun) : Loaded :=
  let targets := r.places.map fun (number, place) => (number, Node.first (r.events.drop place))
  ⟨⟨targets, Node.first r.events⟩, r.error, r.events.length⟩

/-- The document of a text. -/
def load (text : String) : Loaded :=
  (events text).document

/-- How many references may be followed in a document.  Nodes that are referred to many times over
would make a document far larger than its text. -/
def Loaded.referenceLimit (d : Loaded) : Nat :=
  100 * d.size

end MetricLoad.Yaml
