import MetricLoad.Ring
import MetricLoad.Ring.Hash
import MetricLoad.Workload.Generator

/-!
# Expected distribution of a workload over a ring

A report counts the series that each instance should receive at a tick.  Every series counts once
for each member of its replication set.  Counts are listed by address, and an address without series
is not listed.
-/

namespace MetricLoad.Ring

/-- Series counts by address, in increasing order of the addresses. -/
abbrev Counts := List (String × Nat)

/-- The sum of the counts. -/
def total : Counts → Nat
  | [] => 0
  | (_, n) :: rest => n + total rest

/-- Adds one to the count of an address. -/
def countAddress (address : String) : Counts → Counts
  | [] => [(address, 1)]
  | (a, n) :: rest =>
    if address < a then (address, 1) :: (a, n) :: rest
    else if address = a then (a, n + 1) :: rest
    else (a, n) :: countAddress address rest

/-- Adds the replication set of a series to the counts. -/
def countSeries (r : Ring) (tenant : String) (counts : Counts) (s : TimeSeries) :
    Except LookupFailure Counts :=
  (r.get (sortedShardToken tenant s.labels)).map fun addresses =>
    addresses.foldl (fun counts address => countAddress address counts) counts

/-- The counts of some series. -/
def distribution (r : Ring) (tenant : String) (series : List TimeSeries) :
    Except LookupFailure Counts :=
  series.foldlM (countSeries r tenant) []

/-- What is needed for reports: the ring, a generator of its own, the run and the tenant. -/
structure Checker where
  ring : Ring
  generator : Generator
  run : String
  tenant : String

/-- The report at a point in time, and the checker after it. -/
def Checker.check (c : Checker) (now : Instant) : Except LookupFailure Counts × Checker :=
  let (series, generator) := c.generator.tick c.run now
  (distribution c.ring c.tenant series, { c with generator := generator })

end MetricLoad.Ring
