/-!
# Units of time

The names under which a duration text may give its unit, and the length of each unit.  A month is
30.44 days and a year 365.25 days.
-/

namespace MetricLoad.Duration

/-- A unit of time. -/
inductive Unit
  | nanosecond
  | microsecond
  | millisecond
  | second
  | minute
  | hour
  | day
  | week
  | month
  | year
  deriving DecidableEq, Repr

namespace Unit

/-- The unit with the given name; case counts. -/
def ofName? (name : String) : Option Unit :=
  match name with
  | "nanos" | "nsec" | "ns" => some nanosecond
  | "usec" | "us" | "µs" => some microsecond
  | "millis" | "msec" | "ms" => some millisecond
  | "seconds" | "second" | "secs" | "sec" | "s" => some second
  | "minutes" | "minute" | "min" | "mins" | "m" => some minute
  | "hours" | "hour" | "hrs" | "hr" | "h" => some hour
  | "days" | "day" | "d" => some day
  | "weeks" | "week" | "wks" | "wk" | "w" => some week
  | "months" | "month" | "M" => some month
  | "years" | "year" | "yrs" | "yr" | "y" => some year
  | _ => none

/-- The seconds of a unit that is counted in whole seconds. -/
def wholeSeconds : Unit → Nat
  | second => 1
  | minute => 60
  | hour => 3600
  | day => 86400
  | week => 604800
  | month => 2630016
  | year => 31557600
  | _ => 0

/-- The nanoseconds of a unit shorter than a second, and zero for the others. -/
def partNanos : Unit → Nat
  | nanosecond => 1
  | microsecond => 1000
  | millisecond => 1000000
  | _ => 0

/-- What one unit contributes to a fraction: nanoseconds up to the minute, seconds from the hour
on.  A nanosecond has no fraction. -/
inductive FractionScale
  | none
  | nanos (perUnit : Nat)
  | seconds (perUnit : Nat)

/-- The scale of a fraction of the unit. -/
def fractionScale : Unit → FractionScale
  | nanosecond => .none
  | microsecond => .nanos 1000
  | millisecond => .nanos 1000000
  | second => .nanos 1000000000
  | minute => .nanos 60000000000
  | u => .seconds u.wholeSeconds

end Unit
end MetricLoad.Duration
