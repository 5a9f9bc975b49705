import MetricLoad.Workload.Error

/-!
# Effective write options

What a description leaves open is taken from the defaults.  The result must be positive throughout;
the batch size is looked at first, then the interval, then the timeout.
-/

namespace MetricLoad

/-- The options of the write path. -/
structure WriteOptions where
  /-- The time between two ticks. -/
  interval : Duration
  /-- The limit on one request. -/
  timeout : Duration
  /-- The greatest number of series in one request. -/
  batchSize : UInt64
  deriving DecidableEq, Repr, Inhabited

/-- Fifteen seconds for both times, and batches of 500 series. -/
def WriteOptions.standard : WriteOptions :=
  ⟨Duration.ofSeconds 15, Duration.ofSeconds 15, 500⟩

/-- The first option that is zero. -/
def WriteOptions.fault? (o : WriteOptions) : Option PositiveOption :=
  if o.batchSize = 0 then some .batchSize
  else if o.interval.isZero then some .writeInterval
  else if o.timeout.isZero then some .writeTimeout
  else none

/-- The options of a description over some defaults. -/
def WriteOverrides.onto (w : WriteOverrides) (defaults : WriteOptions) : WriteOptions :=
  ⟨w.interval.getD defaults.interval, w.timeout.getD defaults.timeout,
    w.batchSize.getD defaults.batchSize⟩

/-- The options of a description over some defaults, when none of them is zero. -/
def WriteOverrides.resolve (w : WriteOverrides) (defaults : WriteOptions) :
    Except WorkloadError WriteOptions :=
  match (w.onto defaults).fault? with
  | some option => .error (.zero option)
  | none => .ok (w.onto defaults)

end MetricLoad
