import MetricLoad.Document
import MetricLoad.Workload.Description

/-!
# The schema of workload descriptions

The fields of every record have their names in documents here, in order of declaration.  Lists, maps
and the write options may be left out and are then empty; the range of a query and the write options
may also be given as absent.
-/

namespace MetricLoad

open Document

variable {δ : Type} [Document δ]

/-- Reads the kind of a series. -/
def SeriesKind.read (d : δ) : Read SeriesKind := do
  let name ← variant "enum SeriesType" (SeriesKind.all.map (·.name)) d
  return (SeriesKind.ofName? name).getD default

namespace VaryingLabel

/-- The fields read so far. -/
structure Draft where
  name : Option String := none
  valueStem : Option String := none
  variants : Option UInt64 := none

/-- Reads a field. -/
def readField (draft : Draft) (field : String) (d : δ) : Read Draft := do
  match field with
  | "name" => return { draft with name := some (← text "a string" d) }
  | "value_prefix" => return { draft with valueStem := some (← text "a string" d) }
  | "unique_values" => return { draft with variants := some (← size d) }
  | _ => return draft

/-- The label of a draft; all of its fields are required. -/
def ofDraft (draft : Draft) : Except FaultKind VaryingLabel := do
  return ⟨← required "name" draft.name, ← required "value_prefix" draft.valueStem,
    ← required "unique_values" draft.variants⟩

/-- The schema of varying labels. -/
def record : Record δ Draft VaryingLabel :=
  ⟨"LabelDesc", ["name", "value_prefix", "unique_values"], {}, readField, ofDraft⟩

end VaryingLabel

namespace SeriesTemplate

/-- The fields read so far. -/
structure Draft where
  name : Option String := none
  kind : Option SeriesKind := none
  staticLabels : StaticLabels := .empty
  varyingLabels : List VaryingLabel := []

/-- Reads a field. -/
def readField (draft : Draft) (field : String) (d : δ) : Read Draft := do
  match field with
  | "name" => return { draft with name := some (← text "a string" d) }
  | "type" => return { draft with kind := some (← SeriesKind.read d) }
  | "static_labels" =>
    return { draft with staticLabels := .ofList (← Document.map (text "a string") d) }
  | "labels" => return { draft with varyingLabels := ← list VaryingLabel.record.read d }
  | _ => return draft

/-- The template of a draft; its name and its kind are required. -/
def ofDraft (draft : Draft) : Except FaultKind SeriesTemplate := do
  return ⟨← required "name" draft.name, ← required "type" draft.kind, draft.staticLabels,
    draft.varyingLabels⟩

/-- The schema of series templates. -/
def record : Record δ Draft SeriesTemplate :=
  ⟨"SeriesDesc", ["name", "type", "static_labels", "labels"], {}, readField, ofDraft⟩

end SeriesTemplate

namespace QueryDescription

/-- The fields read so far. -/
structure Draft where
  count : Option UInt64 := none
  expression : Option String := none
  kind : Option SeriesKind := none
  interval : Option Duration := none
  range : Option Duration := none
  regex : Bool := false
  exactSeries : Bool := false

/-- Reads a field. -/
def readField (draft : Draft) (field : String) (d : δ) : Read Draft := do
  match field with
  | "num_queries" => return { draft with count := some (← size d) }
  | "expr_template" => return { draft with expression := some (← text "a string" d) }
  | "series_type" => return { draft with kind := some (← SeriesKind.read d) }
  | "interval" => return { draft with interval := some (← duration d) }
  | "time_range" => return { draft with range := ← optional duration d }
  | "regex" => return { draft with regex := ← flag d }
  | "inject_exact_series_matcher" => return { draft with exactSeries := ← flag d }
  | _ => return draft

/-- The description of a draft; the first four fields are required. -/
def ofDraft (draft : Draft) : Except FaultKind QueryDescription := do
  return ⟨← required "num_queries" draft.count, ← required "expr_template" draft.expression,
    ← required "series_type" draft.kind, ← required "interval" draft.interval, draft.range,
    draft.regex, draft.exactSeries⟩

/-- The schema of query descriptions. -/
def record : Record δ Draft QueryDescription :=
  ⟨"QueryDesc", ["num_queries", "expr_template", "series_type", "interval", "time_range", "regex",
    "inject_exact_series_matcher"], {}, readField, ofDraft⟩

end QueryDescription

namespace WriteOverrides

/-- Reads a field. -/
def readField (draft : WriteOverrides) (field : String) (d : δ) : Read WriteOverrides := do
  match field with
  | "interval" => return { draft with interval := ← optional duration d }
  | "timeout" => return { draft with timeout := ← optional duration d }
  | "batch_size" => return { draft with batchSize := ← optional size d }
  | _ => return draft

/-- The schema of write options; nothing is required. -/
def record : Record δ WriteOverrides WriteOverrides :=
  ⟨"WriteDesc", ["interval", "timeout", "batch_size"], {}, readField, .ok⟩

end WriteOverrides

namespace Workload

/-- The fields read so far. -/
structure Draft where
  replicas : Option UInt64 := none
  series : List SeriesTemplate := []
  queries : List QueryDescription := []
  write : WriteOverrides := {}

/-- Reads a field. -/
def readField (draft : Draft) (field : String) (d : δ) : Read Draft := do
  match field with
  | "replicas" => return { draft with replicas := some (← size d) }
  | "series" => return { draft with series := ← list SeriesTemplate.record.read d }
  | "queries" => return { draft with queries := ← list QueryDescription.record.read d }
  | "write_options" => return { draft with write := ← WriteOverrides.record.read d }
  | _ => return draft

/-- The workload of a draft; the number of replicas is required. -/
def ofDraft (draft : Draft) : Except FaultKind Workload := do
  return ⟨← required "replicas" draft.replicas, draft.series, draft.queries, draft.write⟩

/-- The schema of workloads. -/
def record : Record δ Draft Workload :=
  ⟨"WorkloadDesc", ["replicas", "series", "queries", "write_options"], {}, readField, ofDraft⟩

/-- Reads a workload from a document. -/
def read (d : δ) : Read Workload :=
  record.read d

end Workload
end MetricLoad
