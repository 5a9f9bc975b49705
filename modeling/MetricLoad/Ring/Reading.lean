import MetricLoad.Document
import MetricLoad.Ring

/-!
# The schema of ring instances

An instance has an address and may list its tokens.
-/

namespace MetricLoad.Instance

open Document

variable {δ : Type} [Document δ]

/-- The fields read so far. -/
structure Draft where
  address : Option String := none
  tokens : List UInt32 := []

/-- Reads a field. -/
def readField (draft : Draft) (field : String) (d : δ) : Read Draft := do
  match field with
  | "addr" => return { draft with address := some (← text "a string" d) }
  | "tokens" => return { draft with tokens := ← list word d }
  | _ => return draft

/-- The instance of a draft; its address is required. -/
def ofDraft (draft : Draft) : Except FaultKind Instance := do
  return ⟨← required "addr" draft.address, draft.tokens⟩

/-- The schema of instances. -/
def record : Record δ Draft Instance :=
  ⟨"InstanceDesc", ["addr", "tokens"], {}, readField, ofDraft⟩

/-- Reads a list of instances. -/
def readList (d : δ) : Read (List Instance) :=
  list record.read d

end MetricLoad.Instance
