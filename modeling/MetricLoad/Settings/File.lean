import MetricLoad.Settings.Value
import MetricLoad.Yaml.Reading

/-!
# Settings files

A settings file is a YAML document with a mapping; an empty document has no settings.  Scalars keep
their YAML meaning, so an unquoted number is a number.  A node with a tag of the document's own is a
table with one entry, and points in the tag lead into further tables.  Collections may be nested at
most 128 levels deep.
-/

namespace MetricLoad.Setting

open MetricLoad.Document

/-- The scalar with a meaning. -/
def scalarOf : Found → Scalar
  | .flag value => .flag value
  | .unsigned value => .unsigned value
  | .signed value => .signed value
  | .real bits => .real bits
  | .text value => .text value
  | _ => .nothing

/-- The path of names that a tag stands for, up to the first empty one. -/
def tagPath (name : String) : List String :=
  (name.splitOn ".").takeWhile fun part => !part.isEmpty

/-- The value of a part whose own parts are read in a given way, unless they are nested too
deeply. -/
def ofPartWith (layer : Layer) (inner : Option (Yaml.Part → Read Setting)) (p : Yaml.Part) :
    Read Setting := do
  let p ← enter p
  let tag := p.node.tag?.bind (·.localName?)
  let value ← match p.node, inner with
    | .scalar _ _ style s, _ =>
      match Yaml.scalarMeaning (if tag.isSome then none else p.node.tag?) style s with
      | .ok meaning => pure (scalar layer (scalarOf meaning))
      | .error kind => throw (faultAt p kind)
    | .sequence .., some inner => pure (.list layer (← Document.list inner p))
    | .mapping .., some inner => pure (table layer (sorted (← Document.map inner p)))
    | .missing, _ => throw (wrongType "any valid value" p)
    | _, _ => throw { faultAt p .tooDeep with scope := .document }
  return nested layer ((tag.map tagPath).getD []) value

/-- The value of a part whose collections may be nested to some depth. -/
def ofPart (layer : Layer) : Nat → Yaml.Part → Read Setting
  | 0 => ofPartWith layer none
  | depth + 1 => ofPartWith layer (some (ofPart layer depth))

/-- The greatest depth of collections in a file. -/
def depthLimit : Nat := 128

/-- The settings of a root, which must be a mapping. -/
def ofRoot (layer : Layer) (root : Yaml.Part) : Read Setting :=
  return table layer (sorted (← Document.map (ofPart layer (depthLimit - 1)) root))

/-- The settings of a file with a path and a text. -/
def ofFile (path text : String) : Except Yaml.TextError Setting :=
  Yaml.readText (ofRoot (.file path)) text

end MetricLoad.Setting
