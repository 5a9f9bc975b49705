import MetricLoad.Query.Matcher
import MetricLoad.Random.Adler
import MetricLoad.Random.ChaCha
import MetricLoad.Workload.Generator

/-!
# Derivation of queries

Every query of a workload selects one series of the described kind and one replica, and, where asked
for, one label set of the series.  The selections are drawn from a random stream seeded with the run
identity; what a query looks like does not influence them.  The same identity and description
therefore give the same queries.

Descriptions are checked in order: first the interval, then the template, then whether a series of
the kind exists.  Nothing is drawn from an empty choice.
-/

namespace MetricLoad

open MetricLoad.Random

/-- A query with its schedule. -/
structure Query where
  expression : String
  interval : Duration
  /-- The range it looks back over; zero for an instant query. -/
  range : Duration
  deriving DecidableEq, Repr, Inhabited

/-- Whether the query looks back over a range. -/
def Query.isRange (q : Query) : Bool :=
  !q.range.isZero

/-- The name of the query's type. -/
def Query.typeName (q : Query) : String :=
  if q.isRange then "range" else "instant"

/-- What a query selects. -/
structure Selection where
  series : SeriesTemplate
  replica : Nat
  /-- The index of the label set whose labels are matched as well. -/
  labelSet : Option Nat
  deriving DecidableEq, Repr, Inhabited

namespace Selection

/-- The labels of the selected label set, the metric name apart. -/
def labels (s : Selection) : List Label :=
  ((s.labelSet.bind s.series.labelSetAt?).getD []).filter (·.name ≠ nameLabel)

/-- The matchers of a selection: the replica, then the labels of the label set. -/
def matchers (s : Selection) (operator : MatchOperator) : List Matcher :=
  ⟨replicaLabel, operator, replicaName s.replica⟩ ::
    s.labels.map fun label => ⟨label.name, .equal, label.value⟩

end Selection

namespace Query

/-- Draws the index of a label set of a series, if it has one. -/
def drawLabelSet (s : SeriesTemplate) (random : ChaCha) : Option Nat × ChaCha :=
  if s.labelSetCount = 0 then (none, random)
  else
    let (index, random) := drawIndex s.labelSetCount.toNat random
    (some index, random)

/-- Draws the selection of one query. -/
def drawSelection (candidates : List SeriesTemplate) (replicas : Nat) (exactSeries : Bool)
    (random : ChaCha) : Selection × ChaCha :=
  let (position, random) := drawIndex candidates.length random
  let series := candidates.getD position default
  let (replica, random) := drawIndex replicas random
  let (labelSet, random) := if exactSeries then drawLabelSet series random else (none, random)
  (⟨series, replica, labelSet⟩, random)

/-- Draws a number of selections one after the other. -/
def drawSelections (candidates : List SeriesTemplate) (replicas : Nat) (exactSeries : Bool) :
    Nat → ChaCha → List Selection × ChaCha
  | 0, random => ([], random)
  | count + 1, random =>
    let (selection, random) := drawSelection candidates replicas exactSeries random
    let (rest, random) := drawSelections candidates replicas exactSeries count random
    (selection :: rest, random)

/-- The series of a kind in the order of the description. -/
def candidates (w : Workload) (kind : SeriesKind) : List SeriesTemplate :=
  w.series.filter (·.kind = kind)

/-- The fault of a query description, if it has one, and its template otherwise. -/
def check (w : Workload) (d : QueryDescription) : Except WorkloadError QueryTemplate :=
  if d.interval.isZero then .error (.zero .queryInterval)
  else match QueryTemplate.parse d.expression with
    | .error e => .error (.template e)
    | .ok template =>
      if (candidates w d.kind).isEmpty then .error (.noSeriesOfKind d.kind) else .ok template

/-- The operator that a description matches replicas with. -/
def replicaOperator (d : QueryDescription) : MatchOperator :=
  if d.regex then .regex else .equal

/-- The query of a description for a selection. -/
def ofSelection (d : QueryDescription) (template : QueryTemplate) (s : Selection) : Query :=
  ⟨template.render s.series.name (Matcher.listText (s.matchers (replicaOperator d))), d.interval,
    d.range.getD Duration.zero⟩

/-- Derives the queries of some descriptions in order. -/
def deriveFrom (w : Workload) : List QueryDescription → ChaCha → Except WorkloadError (List Query)
  | [], _ => .ok []
  | d :: rest, random =>
    match check w d with
    | .error e => .error e
    | .ok template =>
      let (selections, random) :=
        drawSelections (candidates w d.kind) w.replicas.toNat d.exactSeries d.count.toNat random
      match deriveFrom w rest random with
      | .error e => .error e
      | .ok queries => .ok (selections.map (ofSelection d template) ++ queries)

/-- The random stream of a run. -/
def runStream (run : String) : ChaCha :=
  ChaCha.ofSeed (adler32 (Text.bytes run)).toUInt64

/-- The queries of a workload for the given run identity. -/
def derive (run : String) (w : Workload) : Except WorkloadError (List Query) :=
  if w.queries.isEmpty then .ok []
  else if w.replicas = 0 then .error .noReplicas
  else deriveFrom w w.queries (runStream run)

end Query
end MetricLoad
