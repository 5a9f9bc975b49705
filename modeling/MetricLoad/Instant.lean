import MetricLoad.Duration
import MetricLoad.Decimal.Fixed

/-!
# Points in time

A point in time is its distance from the Unix epoch in nanoseconds, negative before it.  Samples
carry it in milliseconds, query parameters in seconds with three decimals; both read a time before
the epoch as the epoch itself.
-/

namespace MetricLoad

/-- A point in time, in nanoseconds since the Unix epoch. -/
structure Instant where
  sinceEpoch : Int
  deriving DecidableEq, Repr, Inhabited

namespace Instant

/-- The Unix epoch. -/
def epoch : Instant := ⟨0⟩

/-- The point that lies some seconds and nanoseconds after the epoch. -/
def ofParts (seconds : Int) (nanos : Nat) : Instant :=
  ⟨seconds * 1000000000 + nanos⟩

/-- The milliseconds since the epoch in the low 64 bits, and zero before the epoch. -/
def timestampMillis (t : Instant) : Int64 :=
  Int64.ofNat (t.sinceEpoch.toNat / 1000000)

/-- The seconds since the epoch as a double: the seconds and the fraction are each rounded, then
added. -/
def seconds (t : Instant) : Float :=
  let nanos := t.sinceEpoch.toNat
  (nanos / nanosPerSecond).toFloat + (nanos % nanosPerSecond).toFloat / 1000000000.0

/-- The seconds since the epoch with three decimals. -/
def queryText (t : Instant) : String :=
  Decimal.fixed 3 t.seconds

/-- The point `d` before `t`. -/
def before (t : Instant) (d : Duration) : Instant :=
  ⟨t.sinceEpoch - d.totalNanos⟩

end Instant
end MetricLoad
