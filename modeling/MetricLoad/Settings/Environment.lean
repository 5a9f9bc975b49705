import MetricLoad.Settings.Literal
import MetricLoad.Text.Split

/-!
# Settings in the environment

A variable whose name begins with `BENCH__`, in any case, sets the value at the path that the rest
of the name spells: two underscores, and points as well, stand between the names of the path, and
case does not count.  A name with an empty part is passed over.  Variables count in order, so of
two for the same path the later one stays.
-/

namespace MetricLoad.Setting

/-- The names of variables begin with this text. -/
def variableStem : String := "bench__"

/-- The parts of a text between points and double underscores, from the left. -/
def pathParts : List Char → List (List Char)
  | [] => [[]]
  | '_' :: '_' :: rest => [] :: pathParts rest
  | c :: rest =>
    if c == '.' then [] :: pathParts rest
    else match pathParts rest with
      | [] => [[c]]
      | part :: parts => (c :: part) :: parts

/-- The path of the setting that a variable names. -/
def pathOf? (name : String) : Option (List String) :=
  let name := (Text.trim name.toList).map Char.toLower
  (Text.dropStem? variableStem.toList name).bind fun rest =>
    let parts := pathParts rest
    let parts := match parts.reverse with
      | [] => []
      | last :: front => (Text.trimEnd last :: front).reverse
    let parts := match parts with
      | [] => []
      | first :: rest => Text.trimStart first :: rest
    if parts.any List.isEmpty then none else some (parts.map String.ofList)

/-- The settings of some variables. -/
def ofEnvironment (bindings : List (String × String)) : Setting :=
  bindings.foldl
    (fun settings (name, value) =>
      match pathOf? name with
      | none => settings
      | some path => settings.overlay (nested .environment path (ofVariable value)))
    (table .environment [])

end MetricLoad.Setting
