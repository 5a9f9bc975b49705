import MetricLoad.Ring.Report
import MetricLoad.Schedule

/-!
# Reports at intervals

The expected distribution is reported at intervals, the first time one interval after the start.  A
report is a summary and one record for every address with series.  Reports that fall due between two
looks at the clock are skipped but for one; while the clock is waited for, every report is made in
time.

An error of the ring is a record like a report, and the next report comes in time.  A lookup that
finds no room for its owners ends the reporter in the middle of its count: there is no record of
this report and no later one.
-/

namespace MetricLoad.Ring

/-- A record of a report. -/
inductive Record
  /-- The number of addresses with series and the sum of their series. -/
  | summary (instances total : Nat)
  | share (address : String) (series : Nat)
  | failure (cause : RingError)
  deriving DecidableEq, Repr

/-- The records of a report; none where counting did not come to an end. -/
def records? : Except LookupFailure Counts → Option (List Record)
  | .error .capacityOverflow => none
  | .error (.refused cause) => some [.failure cause]
  | .ok counts =>
    some (.summary counts.length (total counts) ::
      counts.map fun (address, series) => .share address series)

/-- A number of reports one after the other, and the checker after them unless one of them did not
come to an end. -/
def Checker.reports (c : Checker) (now : Instant) : Nat → List Record × Option Checker
  | 0 => ([], some c)
  | count + 1 =>
    let (counts, c) := c.check now
    match records? counts with
    | none => ([], none)
    | some report =>
      let (rest, c) := c.reports now count
      (report ++ rest, c)

/-- A checker with its schedule and a clock, in nanoseconds since the start. -/
structure Reporter where
  /-- The checker, as long as the reporter has not ended. -/
  checker : Option Checker
  schedule : MetricLoad.Schedule
  now : Nat

/-- The reporter at its start. -/
def Reporter.start (c : Checker) (interval : Duration) : Reporter :=
  ⟨some c, .start 0 interval.totalNanos, 0⟩

/-- Moves the clock and looks at it: the records that are due, and the reporter after them. -/
def Reporter.advance (r : Reporter) (nanos : Nat) : List Record × Reporter :=
  let now := r.now + nanos
  match r.checker with
  | none => ([], { r with now := now })
  | some checker =>
    let (due, schedule) := r.schedule.look now
    let (records, checker) := checker.reports ⟨now⟩ due
    (records, ⟨checker, schedule, now⟩)

/-- Lets the clock go from deadline to deadline up to a time. -/
def Reporter.waitWithin (r : Reporter) : Nat → Nat → List Record × Reporter
  | 0, _ => ([], r)
  | fuel + 1, until_ =>
    if r.checker.isSome && r.schedule.deadline ≤ until_ then
      let (records, r) := r.advance (r.schedule.deadline - r.now)
      let (rest, r) := r.waitWithin fuel until_
      (records ++ rest, r)
    else ([], { r with now := until_ })

/-- Waits for some seconds: the records that are due meanwhile, and the reporter after them.  Without
time between them there are no reports. -/
def Reporter.wait (r : Reporter) (seconds : Nat) : List Record × Reporter :=
  let nanos := seconds * 1000000000
  if r.schedule.period = 0 then ([], r)
  else r.waitWithin (nanos / r.schedule.period + 2) (r.now + nanos)

end MetricLoad.Ring
