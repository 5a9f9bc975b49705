/-!
# JSON values

A value as it was written: an object keeps its members in order, a repeated name included, because
a schema may refuse repetitions.  `unreadable` stands for a text that has the form of a value but
denotes none, such as a number beyond the doubles or half of a surrogate pair.  Such a value can
only be skipped, and no reader accepts it.
-/

namespace MetricLoad

/-- A JSON value. -/
inductive Json
  | null
  | bool (value : Bool)
  /-- A whole number between the least signed and the greatest unsigned 64-bit number. -/
  | integer (value : Int)
  /-- Any other number, as the bits of a double. -/
  | real (bits : UInt64)
  | text (value : String)
  | array (items : List Json)
  | object (members : List (String × Json))
  | unreadable
  deriving Repr, Inhabited

namespace Json

/-- The last member with the given name. -/
def member? (members : List (String × Json)) (name : String) : Option Json :=
  members.foldl (fun found (key, value) => if key == name then some value else found) none

/-- The value of a field of an object; `null` when it is absent. -/
def field (value : Json) (name : String) : Json :=
  match value with
  | .object members => (member? members name).getD .null
  | _ => .null

mutual

/-- The greatest number of arrays and objects around any part of a value, itself included. -/
def depth : Json → Nat
  | .array items => 1 + depthOfItems items
  | .object members => 1 + depthOfMembers members
  | _ => 0

/-- The greatest depth among the items of an array. -/
def depthOfItems : List Json → Nat
  | [] => 0
  | item :: rest => max (depth item) (depthOfItems rest)

/-- The greatest depth among the values of an object. -/
def depthOfMembers : List (String × Json) → Nat
  | [] => 0
  | (_, value) :: rest => max (depth value) (depthOfMembers rest)

end

/-- Inserts a member into a list sorted by name; a present name gets the new value. -/
def insertMember (name : String) (value : Json) : List (String × Json) → List (String × Json)
  | [] => [(name, value)]
  | (key, old) :: rest =>
    if name < key then (name, value) :: (key, old) :: rest
    else if name == key then (key, value) :: rest
    else (key, old) :: insertMember name value rest

mutual

/-- The value with the members of every object sorted by name, of which a repeated one keeps its
last value; nothing when a part is unreadable. -/
def normalize? : Json → Option Json
  | .array items => (normalizeItems? items).map .array
  | .object members => (normalizeMembers? [] members).map .object
  | .unreadable => none
  | value => some value

/-- The normalized items of an array. -/
def normalizeItems? : List Json → Option (List Json)
  | [] => some []
  | item :: rest => do
    let item ← normalize? item
    let rest ← normalizeItems? rest
    return item :: rest

/-- Adds the normalized members of an object to some sorted members. -/
def normalizeMembers? (sorted : List (String × Json)) :
    List (String × Json) → Option (List (String × Json))
  | [] => some sorted
  | (name, value) :: rest => do
    let value ← normalize? value
    normalizeMembers? (insertMember name value sorted) rest

end

end Json
end MetricLoad
