/-!
# Values of settings

Settings come in layers: a file, and the environment over it.  Every layer is a value made of
scalars, lists and tables, and every value remembers its layer.  A table keeps its entries in
increasing order of their names, by code point, and names are unique.

Laying a value over another one joins tables entry by entry, down to any depth.  Everything else is
replaced as a whole.
-/

namespace MetricLoad

/-- Where settings come from. -/
inductive Layer
  | file (path : String)
  | environment
  deriving DecidableEq, Repr, Inhabited

/-- A value without parts. -/
inductive Scalar
  | nothing
  | flag (value : Bool)
  | unsigned (value : Nat)
  /-- A number written with a minus sign. -/
  | signed (value : Int)
  /-- A number with a fraction, as the bits of a double. -/
  | real (bits : UInt64)
  | character (value : Char)
  | text (value : String)
  deriving DecidableEq, Repr, Inhabited

/-- A value of settings. -/
inductive Setting
  | scalar (layer : Layer) (content : Scalar)
  | list (layer : Layer) (items : List Setting)
  | table (layer : Layer) (entries : List (String × Setting))
  deriving Repr, Inhabited

namespace Setting

/-- The layer of a value. -/
def layer : Setting → Layer
  | scalar layer _ => layer
  | list layer _ => layer
  | table layer _ => layer

/-- The value with a name. -/
def find? (name : String) (entries : List (String × Setting)) : Option Setting :=
  (entries.find? fun entry => entry.1 == name).map (·.2)

/-- Puts an entry into a sorted list in place of one with the same name. -/
def put (name : String) (value : Setting) : List (String × Setting) → List (String × Setting)
  | [] => [(name, value)]
  | (key, old) :: rest =>
    if name < key then (name, value) :: (key, old) :: rest
    else if name = key then (name, value) :: rest
    else (key, old) :: put name value rest

/-- The entries of a list by name; of a repeated name the last value stays. -/
def sorted (entries : List (String × Setting)) : List (String × Setting) :=
  entries.foldl (fun entries (name, value) => put name value entries) []

mutual

/-- The second value laid over the first. -/
def overlay (old : Setting) : Setting → Setting
  | table layer entries =>
    match old with
    | table _ oldEntries => table layer (overlayEntries oldEntries entries)
    | _ => table layer entries
  | scalar layer content => scalar layer content
  | list layer items => list layer items

/-- The second entries laid over the first. -/
def overlayEntries (old : List (String × Setting)) :
    List (String × Setting) → List (String × Setting)
  | [] => old
  | (name, value) :: rest =>
    let value := match find? name old with
      | some previous => overlay previous value
      | none => value
    overlayEntries (put name value old) rest

end

/-- A value inside tables of one entry each, for a path of names. -/
def nested (layer : Layer) : List String → Setting → Setting
  | [], value => value
  | name :: rest, value => table layer [(name, nested layer rest value)]

/-- The value at the end of a path of names and positions. -/
def at? : List (String ⊕ Nat) → Setting → Option Setting
  | [], value => some value
  | .inl name :: rest, table _ entries => (find? name entries).bind (at? rest)
  | .inr index :: rest, list _ items => (items[index]?).bind (at? rest)
  | _, _ => none

end Setting
end MetricLoad
