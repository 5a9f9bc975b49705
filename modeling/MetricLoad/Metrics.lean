import MetricLoad.Metrics.Family
import MetricLoad.Metrics.Histogram

/-!
# The tool's own metrics

Latencies of write requests are kept by response code, those of queries by outcome and type of
query. Counters grow by the batches and series that are handed to the write workers.  A gauge
holds the number of addresses of each endpoint.
-/

namespace MetricLoad

open Metrics in
/-- The metrics of a run. -/
structure Metrics where
  /-- Latencies by response code. -/
  writeLatency : Family String Histogram
  writeBatches : UInt64
  writeSeries : UInt64
  /-- Latencies by outcome and type of query. -/
  queryLatency : Family (String × String) Histogram
  /-- The number of addresses by endpoint. -/
  resolved : Family String Int64
  deriving Inhabited

namespace Metrics

/-- The metrics before a run. -/
def empty : Metrics :=
  ⟨[], 0, 0, [], []⟩

/-- Adds the latency of a write request. -/
def observeWrite (m : Metrics) (code : String) (seconds : Float) : Metrics :=
  { m with writeLatency := m.writeLatency.modify Histogram.empty (·.observe seconds) code }

/-- Adds the latency of a query. -/
def observeQuery (m : Metrics) (status type : String) (seconds : Float) : Metrics :=
  { m with
    queryLatency := m.queryLatency.modify Histogram.empty (·.observe seconds) (status, type) }

/-- Counts batches. -/
def addBatches (m : Metrics) (n : UInt64) : Metrics :=
  { m with writeBatches := m.writeBatches + n }

/-- Counts series. -/
def addSeries (m : Metrics) (n : UInt64) : Metrics :=
  { m with writeSeries := m.writeSeries + n }

/-- Makes the gauge of an endpoint known, at zero. -/
def declareResolved (m : Metrics) (target : String) : Metrics :=
  { m with resolved := m.resolved.modify 0 id target }

/-- Sets the gauge of an endpoint. -/
def setResolved (m : Metrics) (target : String) (n : Int64) : Metrics :=
  { m with resolved := m.resolved.modify 0 (fun _ => n) target }

/-- The number of observations of write requests with a code. -/
def writeCount (m : Metrics) (code : String) : Nat :=
  ((m.writeLatency.get? code).map (·.count)).getD 0

/-- The number of observations of queries of a type with an outcome. -/
def queryCount (m : Metrics) (status type : String) : Nat :=
  ((m.queryLatency.get? (status, type)).map (·.count)).getD 0

end Metrics
end MetricLoad
