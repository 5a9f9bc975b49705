import MetricLoad.Json
import MetricLoad.Duration.Text
import MetricLoad.Workload.Description

/-!
# Workload descriptions as JSON values

Every field is written, in order of declaration.  Durations are written as texts and absent values
as `null`.
-/

namespace MetricLoad

/-- A value or `null`. -/
def Json.orNull {α : Type} (write : α → Json) : Option α → Json
  | some a => write a
  | none => .null

/-- A 64-bit number. -/
def Json.size (n : UInt64) : Json :=
  .integer n.toNat

/-- The text of a duration. -/
def Duration.toJson (d : Duration) : Json :=
  .text d.text

/-- The name of a kind. -/
def SeriesKind.toJson (kind : SeriesKind) : Json :=
  .text kind.name

/-- An object from names to values. -/
def StaticLabels.toJson (labels : StaticLabels) : Json :=
  .object (labels.entries.map fun (name, value) => (name, .text value))

/-- The fields of a varying label. -/
def VaryingLabel.toJson (v : VaryingLabel) : Json :=
  .object [("name", .text v.name), ("value_prefix", .text v.valueStem),
    ("unique_values", Json.size v.variants)]

/-- The fields of a series template. -/
def SeriesTemplate.toJson (s : SeriesTemplate) : Json :=
  .object [("name", .text s.name), ("type", s.kind.toJson),
    ("static_labels", s.staticLabels.toJson),
    ("labels", .array (s.varyingLabels.map (·.toJson)))]

/-- The fields of a query description. -/
def QueryDescription.toJson (q : QueryDescription) : Json :=
  .object [("num_queries", Json.size q.count), ("expr_template", .text q.expression),
    ("series_type", q.kind.toJson), ("interval", q.interval.toJson),
    ("time_range", Json.orNull Duration.toJson q.range), ("regex", .bool q.regex),
    ("inject_exact_series_matcher", .bool q.exactSeries)]

/-- The fields of the write options. -/
def WriteOverrides.toJson (w : WriteOverrides) : Json :=
  .object [("interval", Json.orNull Duration.toJson w.interval),
    ("timeout", Json.orNull Duration.toJson w.timeout),
    ("batch_size", Json.orNull Json.size w.batchSize)]

/-- The fields of a workload. -/
def Workload.toJson (w : Workload) : Json :=
  .object [("replicas", Json.size w.replicas), ("series", .array (w.series.map (·.toJson))),
    ("queries", .array (w.queries.map (·.toJson))), ("write_options", w.write.toJson)]

end MetricLoad
