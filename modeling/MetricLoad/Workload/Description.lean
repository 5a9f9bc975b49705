import MetricLoad.Duration
import MetricLoad.Workload.StaticLabels

/-!
# Workload descriptions

A workload describes series and queries.  A series template expands into one label set for every
combination of the values of its varying labels, and its kind says how its value moves from tick to
tick.  A query description selects series of one kind.  Sizes are unsigned 64-bit numbers.
-/

namespace MetricLoad

/-- How the value of a series moves. -/
inductive SeriesKind
  /-- Always zero. -/
  | gaugeZero
  /-- A random value from zero up to one at every tick. -/
  | gaugeRandom
  /-- A counter that grows by one at every tick. -/
  | counterOne
  /-- A counter that grows by a random positive amount at every tick. -/
  | counterRandom
  deriving DecidableEq, Repr, Inhabited

namespace SeriesKind

/-- All kinds. -/
def all : List SeriesKind :=
  [gaugeZero, gaugeRandom, counterOne, counterRandom]

/-- The name of a kind in descriptions. -/
def name : SeriesKind → String
  | gaugeZero => "gauge-zero"
  | gaugeRandom => "gauge-random"
  | counterOne => "counter-one"
  | counterRandom => "counter-random"

/-- The kind with the given name. -/
def ofName? (name : String) : Option SeriesKind :=
  all.find? fun kind => kind.name == name

end SeriesKind

/-- A label that takes a number of different values. -/
structure VaryingLabel where
  name : String
  /-- What stands before the number in each value. -/
  valueStem : String
  /-- How many values the label takes. -/
  variants : UInt64
  deriving DecidableEq, Repr, Inhabited

/-- A series that is expanded into label sets. -/
structure SeriesTemplate where
  name : String
  kind : SeriesKind
  staticLabels : StaticLabels
  varyingLabels : List VaryingLabel
  deriving DecidableEq, Repr, Inhabited

/-- A number of queries of one form. -/
structure QueryDescription where
  /-- How many queries to derive. -/
  count : UInt64
  expression : String
  /-- The kind of series that the queries select from. -/
  kind : SeriesKind
  interval : Duration
  /-- The range that each query looks back over; without it queries are instant. -/
  range : Option Duration
  /-- Whether the replica is matched by a regular expression. -/
  regex : Bool
  /-- Whether all labels of one label set are matched as well. -/
  exactSeries : Bool
  deriving DecidableEq, Repr, Inhabited

/-- The write options that a description sets. -/
structure WriteOverrides where
  interval : Option Duration := none
  timeout : Option Duration := none
  batchSize : Option UInt64 := none
  deriving DecidableEq, Repr, Inhabited

/-- The description of a workload. -/
structure Workload where
  replicas : UInt64
  series : List SeriesTemplate
  queries : List QueryDescription
  write : WriteOverrides
  deriving DecidableEq, Repr, Inhabited

end MetricLoad
