/-!
# Periodic deadlines

A periodic deadline begins one period after its start.  Whoever waits for it looks at the clock now
and then; a look at or after the deadline makes it fire once.  After a look that is hardly late the
next deadline follows one period after the last.  After a later look the deadlines that have been
missed are skipped, and the next one is the first of the old rhythm behind the look.

Times are in nanoseconds.
-/

namespace MetricLoad

/-- A deadline that repeats. -/
structure Schedule where
  period : Nat
  /-- The next time at which it fires. -/
  deadline : Nat
  deriving DecidableEq, Repr, Inhabited

namespace Schedule

/-- The lateness up to which a deadline counts as met, five milliseconds. -/
def tolerance : Nat := 5000000

/-- The deadlines of a period that begins now. -/
def start (now period : Nat) : Schedule :=
  ⟨period, now + period⟩

/-- The schedule after it has fired at a time. -/
def next (s : Schedule) (now : Nat) : Schedule :=
  if s.deadline + tolerance < now then
    { s with deadline := now + s.period - (now - s.deadline) % s.period }
  else { s with deadline := s.deadline + s.period }

/-- How often a schedule fires at one look at the clock, and the schedule after it.  More than one
firing is possible only for periods within the tolerance. -/
def lookWithin : Nat → Schedule → Nat → Nat × Schedule
  | 0, s, _ => (0, s)
  | fuel + 1, s, now =>
    if s.deadline ≤ now then
      let (more, s) := lookWithin fuel (s.next now) now
      (more + 1, s)
    else (0, s)

/-- How often a schedule fires at one look at the clock, and the schedule after it. -/
def look (s : Schedule) (now : Nat) : Nat × Schedule :=
  lookWithin (tolerance / s.period + 2) s now

end Schedule
end MetricLoad
