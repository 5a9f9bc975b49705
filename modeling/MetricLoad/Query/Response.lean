import MetricLoad.Json.Reader
import MetricLoad.Json.Reading

/-!
# Responses of the query interface

Every response is a record with a status and, as the case may be, data, a type of error and a text.
Data are nested at most as deep as the whole response may be.
-/

namespace MetricLoad

open Document

/-- A response of the query interface. -/
structure ApiResponse where
  status : String
  data : Json
  errorType : Option String
  error : Option String
  deriving Repr, Inhabited

namespace ApiResponse

/-- The fields read so far. -/
structure Draft where
  status : Option String := none
  data : Json := .null
  errorType : Option String := none
  error : Option String := none

/-- The greatest depth of the data; the response around them is one level more. -/
def dataDepth : Nat := 126

/-- Reads data of any form. -/
def readData (value : Json) : Read Json :=
  match value.normalize? with
  | none => throw (faultAt value (.refused "unreadable value"))
  | some data =>
    if value.depth ≤ dataDepth then pure data else throw (faultAt value .tooDeep)

/-- Reads a field. -/
def readField (draft : Draft) (field : String) (value : Json) : Read Draft := do
  match field with
  | "status" => return { draft with status := some (← text "a string" value) }
  | "data" => return { draft with data := ← readData value }
  | "errorType" => return { draft with errorType := ← optional (text "a string") value }
  | "error" => return { draft with error := ← optional (text "a string") value }
  | _ => return draft

/-- The response of a draft; its status is required. -/
def ofDraft (draft : Draft) : Except FaultKind ApiResponse := do
  return ⟨← required "status" draft.status, draft.data, draft.errorType, draft.error⟩

/-- The schema of responses. -/
def record : Record Json Draft ApiResponse :=
  ⟨"ApiResponse", ["status", "data", "errorType", "error"], {}, readField, ofDraft⟩

/-- The response that a JSON value holds. -/
def ofJson? (value : Json) : Option ApiResponse :=
  (record.read value).outcome.toOption

/-- The response that a body holds.  Only the parts that are looked into have to be decoded. -/
def ofBytes? (body : List UInt8) : Option ApiResponse :=
  (Json.ofBytes? body).bind ofJson?

end ApiResponse
end MetricLoad
