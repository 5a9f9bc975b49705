import MetricLoad.Decimal.Scaled
import MetricLoad.Metrics

/-!
# The text form of metrics

Every family is introduced by a line of help and one of its type, also when it has no samples.  The
names have a common stem.  A histogram gives its sum, its count and the running counts of its
buckets, each with its bound as the first label.  Label values are written as they are.
-/

namespace MetricLoad.Metrics

/-- Numbers have a digit after the point; an exponent is written from `10 ^ 21` on and below
`10 ^ -6`. -/
def numberLayout : Decimal.Layout := ⟨some 21, some 6, true⟩

/-- The text of a bound. -/
def boundText (bound : Float) : String :=
  if bound == greatestDouble then "+Inf" else numberLayout.scaledFloat bound

/-- Labels between braces; nothing without labels. -/
def labelsText (labels : List (String × String)) : String :=
  if labels.isEmpty then ""
  else "\x7b" ++ ",".intercalate (labels.map fun (name, value) => name ++ "=\"" ++ value ++ "\"") ++
    "\x7d"

/-- The line of a sample. -/
def sampleLine (name : String) (labels : List (String × String)) (value : String) : String :=
  name ++ labelsText labels ++ " " ++ value ++ "\n"

/-- The lines of a histogram. -/
def histogramLines (name : String) (labels : List (String × String)) (h : Histogram) : String :=
  sampleLine (name ++ "_sum") labels (numberLayout.scaledFloat h.sum) ++
    sampleLine (name ++ "_count") labels (toString h.count) ++
    String.join ((latencyBounds.zip (Histogram.cumulative 0 h.buckets)).map fun (bound, n) =>
      sampleLine (name ++ "_bucket") (("le", boundText bound) :: labels) (toString n))

/-- The help and the type of a family. -/
def heading (name help type : String) : String :=
  "# HELP " ++ name ++ " " ++ help ++ ".\n# TYPE " ++ name ++ " " ++ type ++ "\n"

/-- The samples of the gauge of every endpoint. -/
def resolvedLines (m : Metrics) : String :=
  String.join (m.resolved.map fun (target, n) =>
    sampleLine "benchtool_resolved_addresses" [("target", target)] (toString n.toInt))

/-- The text of all metrics. -/
def exposition (m : Metrics) : String :=
  let write := "benchtool_write_request_duration_seconds"
  let query := "benchtool_query_request_duration_seconds"
  heading write "Time spent doing write requests" "histogram" ++
    String.join (m.writeLatency.map fun (code, h) => histogramLines write [("code", code)] h) ++
    heading "benchtool_write_batches" "Number of batches dispatched to write workers" "counter" ++
    sampleLine "benchtool_write_batches_total" [] (toString m.writeBatches) ++
    heading "benchtool_write_series" "Number of series dispatched to write workers" "counter" ++
    sampleLine "benchtool_write_series_total" [] (toString m.writeSeries) ++
    heading query "Time spent doing query requests" "histogram" ++
    String.join (m.queryLatency.map fun ((status, type), h) =>
      histogramLines query [("status", status), ("type", type)] h) ++
    heading "benchtool_resolved_addresses" "Number of addresses an endpoint resolves to" "gauge" ++
    m.resolvedLines ++ "# EOF\n"

end MetricLoad.Metrics
