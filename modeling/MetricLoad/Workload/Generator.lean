import MetricLoad.Decimal.Fixed
import MetricLoad.Instant
import MetricLoad.Metrics.Family
import MetricLoad.Random.Uniform
import MetricLoad.Random.Xoshiro
import MetricLoad.Workload.LabelSets
import MetricLoad.Workload.Options

/-!
# Generation of samples

A generator holds the label sets and the current value of every series and the state of the random
source.  A tick first moves the value of every series, in order, whether or not the series has label
sets, and then emits one sample per replica and label set.  All replicas carry the same values.
-/

namespace MetricLoad

open MetricLoad.Random

/-- The next value of a series of a kind, and the random state after it. -/
def SeriesKind.nextValue {γ : Type} [Source γ] (kind : SeriesKind) (last : Float) (g : γ) :
    Float × γ :=
  match kind with
  | .gaugeZero => (0.0, g)
  | .gaugeRandom => drawUnit g
  | .counterOne => (last + 1.0, g)
  | .counterRandom =>
    let (increment, g) := drawIncrement g
    (last + increment.toFloat, g)

/-- The name of a simulated replica: its number with at least five digits. -/
def replicaName (replica : Nat) : String :=
  "replica-" ++ Decimal.padded 5 replica

/-- A series with its label sets and its current value. -/
structure ExpandedSeries where
  kind : SeriesKind
  labelSets : List (List Label)
  value : Float

/-- The expansion of a template before the first tick. -/
def SeriesTemplate.expanded (s : SeriesTemplate) : ExpandedSeries :=
  ⟨s.kind, s.labelSets, 0.0⟩

/-- Numbers of label sets: of all series, and of the series of each kind. -/
structure SeriesCounts where
  total : Nat
  byKind : Metrics.Family SeriesKind Nat

namespace SeriesCounts

/-- The counts before the first series, with an entry for every kind. -/
def zero : SeriesCounts :=
  ⟨0, SeriesKind.all.map fun kind => (kind, 0)⟩

/-- The counts with the label sets of one more series of a kind. -/
def add (c : SeriesCounts) (kind : SeriesKind) (sets : Nat) : SeriesCounts :=
  ⟨c.total + sets, Metrics.Family.modify 0 (· + sets) kind c.byKind⟩

/-- The count of a kind. -/
def ofKind (c : SeriesCounts) (kind : SeriesKind) : Nat :=
  (Metrics.Family.get? c.byKind kind).getD 0

end SeriesCounts

/-- The state of generation. -/
structure Generator where
  replicas : Nat
  series : List ExpandedSeries
  options : WriteOptions
  random : Xoshiro

namespace Generator

/-- The generator of a workload before the first tick. -/
def ofWorkload (w : Workload) (options : WriteOptions) (seed : UInt64) : Generator :=
  ⟨w.replicas.toNat, w.series.map (·.expanded), options, Xoshiro.ofSeed seed⟩

/-- Counts the label sets of the series one after the other, from none of any kind. -/
def counts (g : Generator) : SeriesCounts :=
  g.series.foldl (fun c s => c.add s.kind s.labelSets.length) .zero

/-- The number of label sets of all series. -/
def totalSeries (g : Generator) : Nat :=
  g.counts.total

/-- The number of label sets of the series of a kind. -/
def seriesOfKind (g : Generator) (kind : SeriesKind) : Nat :=
  g.counts.ofKind kind

/-- Moves the value of each series in order. -/
def advanceSeries : List ExpandedSeries → Xoshiro → List ExpandedSeries × Xoshiro
  | [], random => ([], random)
  | s :: rest, random =>
    let (value, random) := s.kind.nextValue s.value random
    let (rest, random) := advanceSeries rest random
    ({ s with value := value } :: rest, random)

/-- The generator with every value moved. -/
def advance (g : Generator) : Generator :=
  let (series, random) := advanceSeries g.series g.random
  { g with series := series, random := random }

/-- The samples of one series for one replica. -/
def emitSeries (run : String) (timestamp : Int64) (replica : Nat) (s : ExpandedSeries) :
    List TimeSeries :=
  s.labelSets.map fun labels =>
    ⟨labels ++ [⟨replicaLabel, replicaName replica⟩, ⟨runLabel, run⟩],
      [⟨s.value.toBits, timestamp⟩]⟩

/-- The samples of the current values. -/
def emit (g : Generator) (run : String) (now : Instant) : List TimeSeries :=
  (List.range g.replicas).flatMap fun replica =>
    g.series.flatMap (emitSeries run now.timestampMillis replica)

/-- One tick: the samples it emits and the generator after it. -/
def tick (g : Generator) (run : String) (now : Instant) : List TimeSeries × Generator :=
  let g := g.advance
  (g.emit run now, g)

/-- The current value of each series. -/
def values (g : Generator) : List Float :=
  g.series.map (·.value)

end Generator
end MetricLoad
