/-!
# Workers

A worker takes items out of a channel, one at a time, and is done with the one before it takes the
next.  It finishes when the channel is closed and holds nothing any more.
-/

namespace MetricLoad

/-- Where a worker stands. -/
inductive Worker (α : Type)
  | idle
  | holding (item : α)
  | finished

end MetricLoad
