/-!
# Time series

A time series is a list of labels and a list of samples.  Label names may repeat and their order is
kept.  A sample holds the bit pattern of its value, so that every double survives a round trip,
NaN payloads included.
-/

namespace MetricLoad

/-- A label of a series. -/
structure Label where
  name : String
  value : String
  deriving DecidableEq, Repr, Inhabited

/-- A value at a point in time. -/
structure Sample where
  /-- The bits of the value as a double. -/
  valueBits : UInt64
  /-- Milliseconds since the Unix epoch. -/
  timestamp : Int64
  deriving DecidableEq, Repr, Inhabited

/-- A labelled series of samples. -/
structure TimeSeries where
  labels : List Label
  samples : List Sample
  deriving DecidableEq, Repr, Inhabited

/-- The label that holds the name of a metric. -/
def nameLabel : String := "__name__"

/-- The label that tells simulated replicas of one series apart. -/
def replicaLabel : String := "bench_replica"

/-- The label that carries the identity of the run. -/
def runLabel : String := "bench_id"

end MetricLoad
