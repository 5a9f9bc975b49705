/-!
# Latency histograms

A histogram counts observations by the first of its bounds that is not below them, and keeps their
number and their sum.  The last bound is the greatest finite number, so every finite observation has
a bucket.
-/

namespace MetricLoad.Metrics

/-- The greatest finite double. -/
def greatestDouble : Float :=
  Float.ofBits 0x7FEFFFFFFFFFFFFF

/-- The bounds of the buckets in seconds. -/
def latencyBounds : List Float :=
  [0.001, 0.01, 0.1, 0.3, 0.6, 1.0, 3.0, 6.0, 9.0, 20.0, 30.0, 60.0, 90.0, 120.0, greatestDouble]

/-- Observations by bucket. -/
structure Histogram where
  /-- The number of observations in each bucket, in the order of the bounds. -/
  buckets : List Nat
  sum : Float
  count : Nat
  deriving Inhabited

namespace Histogram

/-- A histogram without observations. -/
def empty : Histogram :=
  ⟨latencyBounds.map fun _ => 0, 0.0, 0⟩

/-- Adds one to the bucket of the first bound that is not below a value. -/
def countIn (value : Float) : List Float → List Nat → List Nat
  | bound :: bounds, n :: counts =>
    if bound ≥ value then (n + 1) :: counts else n :: countIn value bounds counts
  | _, counts => counts

/-- The histogram with one more observation. -/
def observe (h : Histogram) (value : Float) : Histogram :=
  ⟨countIn value latencyBounds h.buckets, h.sum + value, h.count + 1⟩

/-- The running sums of some counts. -/
def cumulative (total : Nat) : List Nat → List Nat
  | [] => []
  | n :: rest => (total + n) :: cumulative (total + n) rest

end Histogram
end MetricLoad.Metrics
