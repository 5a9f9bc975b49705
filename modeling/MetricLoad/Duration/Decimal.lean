import MetricLoad.Decimal.Fixed
import MetricLoad.Duration

/-!
# Durations as one decimal number

A duration is shown in the largest of seconds, milliseconds, microseconds and nanoseconds that is
not above it, with the rest as decimal places and without zeros at the end.
-/

namespace MetricLoad.Duration

/-- A number with `places` decimal places, of which zeros at the end are left out. -/
def decimal (whole fraction places : Nat) : String :=
  let digits := (Decimal.padded places fraction).toList.reverse.dropWhile (· == '0')
  if fraction == 0 then toString whole
  else toString whole ++ "." ++ String.ofList digits.reverse

/-- The duration in its largest unit. -/
def decimalText (d : Duration) : String :=
  let nanos := d.nanos.val
  if 0 < d.seconds then decimal d.seconds.toNat nanos 9 ++ "s"
  else if 1000000 ≤ nanos then decimal (nanos / 1000000) (nanos % 1000000) 6 ++ "ms"
  else if 1000 ≤ nanos then decimal (nanos / 1000) (nanos % 1000) 3 ++ "µs"
  else toString nanos ++ "ns"

end MetricLoad.Duration
