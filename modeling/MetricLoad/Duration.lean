/-!
# Durations

A duration is a count of whole seconds that fits 64 bits and a rest below one second in nanoseconds.
Sums are checked: a total of more seconds than 64 bits hold is no duration.
-/

namespace MetricLoad

/-- The nanoseconds of one second. -/
def nanosPerSecond : Nat := 1000000000

/-- A span of time in seconds and nanoseconds. -/
structure Duration where
  /-- The whole seconds. -/
  seconds : UInt64
  /-- The nanoseconds beyond the whole seconds. -/
  nanos : Fin 1000000000
  deriving DecidableEq, Repr, Inhabited

namespace Duration

/-- The empty span. -/
def zero : Duration := ⟨0, 0⟩

/-- A span of whole seconds. -/
def ofSeconds (seconds : UInt64) : Duration := ⟨seconds, 0⟩

/-- Whether the span is empty. -/
def isZero (d : Duration) : Bool :=
  d.seconds == 0 && d.nanos == 0

/-- The span in nanoseconds. -/
def totalNanos (d : Duration) : Nat :=
  d.seconds.toNat * nanosPerSecond + d.nanos.val

/-- The part of a count of nanoseconds below the second. -/
def subSecond (total : Nat) : Fin 1000000000 :=
  ⟨total % nanosPerSecond, Nat.mod_lt _ (by decide)⟩

/-- The span of a count of nanoseconds, when its seconds fit 64 bits. -/
def ofNanos? (total : Nat) : Option Duration :=
  if total / nanosPerSecond < UInt64.size then
    some ⟨(total / nanosPerSecond).toUInt64, subSecond total⟩
  else none

/-- The span of a count of milliseconds. -/
def ofMillis? (millis : Nat) : Option Duration :=
  ofNanos? (millis * 1000000)

/-- The span in seconds as a double: the seconds and the fraction are each rounded, then added. -/
def toFloat (d : Duration) : Float :=
  d.seconds.toFloat + d.nanos.val.toFloat / 1000000000.0

theorem isZero_iff (d : Duration) : d.isZero = true ↔ d = zero := by
  cases d
  simp [isZero, zero]

end Duration
end MetricLoad
