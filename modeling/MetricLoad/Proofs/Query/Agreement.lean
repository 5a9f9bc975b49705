import MetricLoad.Proofs.Query.Selection
import MetricLoad.Proofs.Workload.LabelSets
import MetricLoad.Proofs.Workload.Ticks
import Mathlib

/-!
# Queries ask for series that are written

The queries of a workload are drawn at random from its description, and its samples are generated
from an expansion of the same description that never looks at the queries.  The two agree: whatever
is drawn, the series that a query asks for is emitted at every tick, with the metric name, the
replica and all labels that the query matches.

`Query.AsksFor` says in full what the text of a query is, without a selection or a matcher list.
`Workload.Writes` says that every tick emits a series with some labels, for all options, seeds, run
identities and times.
-/

namespace MetricLoad

/-! ## The text of a query -/

/-- A text between quotes. -/
def quoted (value : String) : String :=
  String.ofList (Matcher.quote value.toList)

/-- The matchers of a query: the replica, then every label but the metric name. -/
def selectorText (regex : Bool) (replica : Nat) (labels : List Label) : String :=
  ",".intercalate
    ((replicaLabel ++ (if regex then "=~" else "=") ++ quoted (replicaName replica)) ::
      (labels.filter (·.name ≠ nameLabel)).map fun label =>
        label.name ++ "=" ++ quoted label.value)

/-- The labels that a selection takes over, the metric name included. -/
def Selection.labelSetLabels (s : Selection) : List Label :=
  (s.labelSet.bind s.series.labelSetAt?).getD []

theorem Selection.listText_matchers (s : Selection) (d : QueryDescription) :
    Matcher.listText (s.matchers (Query.replicaOperator d)) =
      selectorText d.regex s.replica s.labelSetLabels := by
  have hoperator : (Query.replicaOperator d).text = if d.regex then "=~" else "=" := by
    unfold Query.replicaOperator
    split <;> rfl
  simp only [Matcher.listText, Selection.matchers, Selection.labels, Selection.labelSetLabels,
    selectorText, List.map_cons, List.map_map, Matcher.text, hoperator]
  rfl

/-! ## What a query asks for -/

/-- A query asks for a replica of a series of the workload and for some of its labels: those of one
of its label sets where the description asks for an exact series that has one, and else none. -/
structure Query.AsksFor (w : Workload) (d : QueryDescription) (q : Query) (s : SeriesTemplate)
    (replica : Nat) (labels : List Label) : Prop where
  series_mem : s ∈ w.series
  kind_eq : s.kind = d.kind
  replica_lt : replica < w.replicas.toNat
  labels_of_exact : d.exactSeries = true → s.labelSets ≠ [] →
    ∃ index, index < s.labelSetCount.toNat ∧ s.labelSets[index]? = some labels
  labels_of_not_exact : ¬(d.exactSeries = true ∧ s.labelSets ≠ []) → labels = []
  expression_eq : ∃ template, QueryTemplate.parse d.expression = .ok template ∧
    q.expression = template.render s.name (selectorText d.regex replica labels)

/-- At every tick, a series with the given labels is emitted. -/
def Workload.Writes (w : Workload) (labels : List Label) : Prop :=
  ∀ (options : WriteOptions) (seed : UInt64) (ticks : List (String × Instant)),
    ∀ emitted ∈ (Generator.ofWorkload w options seed).emissions ticks,
      ∃ series ∈ emitted, labels ⊆ series.labels

/-- A label set of a series is written for every replica, together with the replica's name. -/
theorem Workload.writes_labelSet {w : Workload} {s : SeriesTemplate} {labels : List Label}
    {replica : Nat} (hs : s ∈ w.series) (hlabels : labels ∈ s.labelSets)
    (hreplica : replica < w.replicas.toNat) :
    w.Writes (⟨replicaLabel, replicaName replica⟩ :: labels) := by
  intro options seed ticks emitted hemitted
  obtain ⟨g, run, now, -, hcontinues, rfl⟩ := Generator.exists_emit_of_mem_emissions hemitted
  have hsets : (s.kind, s.labelSets) ∈ g.expansion := by
    rw [hcontinues.expansion_eq, Generator.expansion_ofWorkload]
    exact List.mem_map.2 ⟨s, hs, rfl⟩
  have hreplica' : replica < g.replicas := by
    rw [hcontinues.replicas_eq]
    exact hreplica
  obtain ⟨series, hseries, heq⟩ := Generator.exists_mem_emit hsets hlabels hreplica' run now
  refine ⟨series, hseries, ?_⟩
  rw [heq]
  simp

namespace Query

/-- A query of a drawn selection asks for what has been drawn. -/
theorem asksFor_ofSelection {w : Workload} (hcounts : ∀ s ∈ w.series, s.combinations < 2 ^ 64)
    {d : QueryDescription} {template : QueryTemplate} {selection : Selection}
    (hparse : QueryTemplate.parse d.expression = .ok template)
    (hdrawn : selection.IsDrawnFrom (candidates w d.kind) w.replicas.toNat d.exactSeries) :
    AsksFor w d (ofSelection d template selection) selection.series selection.replica
      selection.labelSetLabels := by
  obtain ⟨hs, hkind⟩ := mem_candidates.1 hdrawn.series_mem
  have hcount := hcounts selection.series hs
  have hsome : selection.labelSet.isSome ↔
      d.exactSeries = true ∧ selection.series.labelSets ≠ [] := by
    rw [hdrawn.labelSet_isSome, selection.series.labelSetCount_ne_zero_iff hcount]
  constructor
  case series_mem => exact hs
  case kind_eq => exact hkind
  case replica_lt => exact hdrawn.replica_lt
  case labels_of_exact =>
    intro hexact hsets
    -- The index was drawn below the counted number of sets, which is the true one here.
    obtain ⟨index, hindex⟩ := Option.isSome_iff_exists.1 (hsome.2 ⟨hexact, hsets⟩)
    have hlt := hdrawn.labelSet_lt index hindex
    have hlt' : index < selection.series.combinations := by
      rwa [selection.series.toNat_labelSetCount hcount] at hlt
    refine ⟨index, hlt, ?_⟩
    rw [Selection.labelSetLabels, hindex, Option.bind_some,
      selection.series.labelSetAt?_eq_getElem? hcount, selection.series.getElem?_labelSets hlt']
    rfl
  case labels_of_not_exact =>
    intro hnot
    have hnone : selection.labelSet = none :=
      Option.not_isSome_iff_eq_none.1 fun h => hnot (hsome.1 h)
    rw [Selection.labelSetLabels, hnone]
    rfl
  case expression_eq =>
    refine ⟨template, hparse, ?_⟩
    rw [← Selection.listText_matchers]
    rfl

/-- The labels that are asked for belong to one label set of the series. -/
theorem AsksFor.exists_labelSet {w : Workload} {d : QueryDescription} {q : Query}
    {s : SeriesTemplate} {replica : Nat} {labels : List Label}
    (hasks : AsksFor w d q s replica labels) (hsets : s.labelSets ≠ []) :
    ∃ set ∈ s.labelSets, labels ⊆ set := by
  by_cases hexact : d.exactSeries = true
  · obtain ⟨index, -, hindex⟩ := hasks.labels_of_exact hexact hsets
    exact ⟨labels, List.mem_of_getElem? hindex, List.Subset.refl labels⟩
  · -- Nothing but the replica is asked for, so any label set will do.
    obtain ⟨set, hset⟩ := List.exists_mem_of_ne_nil _ hsets
    rw [hasks.labels_of_not_exact fun h => hexact h.1]
    exact ⟨set, hset, List.nil_subset set⟩

/-- What a query asks for is written at every tick. -/
theorem AsksFor.writes {w : Workload} {d : QueryDescription} {q : Query} {s : SeriesTemplate}
    {replica : Nat} {labels : List Label} (hasks : AsksFor w d q s replica labels)
    (hsets : s.labelSets ≠ []) :
    w.Writes (⟨nameLabel, s.name⟩ :: ⟨replicaLabel, replicaName replica⟩ :: labels) := by
  obtain ⟨set, hset, hlabels⟩ := hasks.exists_labelSet hsets
  have hwrites := Workload.writes_labelSet hasks.series_mem hset hasks.replica_lt
  intro options seed ticks emitted hemitted
  obtain ⟨series, hseries, hsubset⟩ := hwrites options seed ticks emitted hemitted
  have hname := SeriesTemplate.nameLabel_mem_of_mem_labelSets hset
  refine ⟨series, hseries, List.cons_subset.2 ⟨?_, List.cons_subset.2 ⟨?_, ?_⟩⟩⟩
  · exact hsubset (List.mem_cons_of_mem _ hname)
  · exact hsubset List.mem_cons_self
  · exact fun label hlabel => hsubset (List.mem_cons_of_mem _ (hlabels hlabel))

/-- The queries of a description, all with its schedule.  Each asks for a series of the workload,
and what it asks for is written at every tick, unless the series has no label set. -/
structure IsWrittenGroup (w : Workload) (d : QueryDescription) (group : List Query) : Prop where
  length_eq : group.length = d.count.toNat
  interval_eq : ∀ q ∈ group, q.interval = d.interval
  range_eq : ∀ q ∈ group, q.range = d.range.getD Duration.zero
  asksFor : ∀ q ∈ group, ∃ s replica labels, AsksFor w d q s replica labels ∧
    (s.labelSets ≠ [] →
      w.Writes (⟨nameLabel, s.name⟩ :: ⟨replicaLabel, replicaName replica⟩ :: labels))

theorem IsGroupOf.isWrittenGroup {w : Workload}
    (hcounts : ∀ s ∈ w.series, s.combinations < 2 ^ 64) {d : QueryDescription}
    {group : List Query} (hgroup : IsGroupOf w d group) : IsWrittenGroup w d group := by
  constructor
  case length_eq => exact hgroup.length_eq
  case interval_eq =>
    intro q hq
    obtain ⟨template, selection, -, -, rfl⟩ := hgroup.of_selection q hq
    rfl
  case range_eq =>
    intro q hq
    obtain ⟨template, selection, -, -, rfl⟩ := hgroup.of_selection q hq
    rfl
  case asksFor =>
    intro q hq
    obtain ⟨template, selection, hparse, hdrawn, rfl⟩ := hgroup.of_selection q hq
    have hasks := asksFor_ofSelection hcounts hparse hdrawn
    exact ⟨selection.series, selection.replica, selection.labelSetLabels, hasks, hasks.writes⟩

/-- Derivation gives the queries of all descriptions in their order, and what they ask for is
written. -/
theorem derived_queries_are_written {run : String} {w : Workload} {queries : List Query}
    (hcounts : ∀ s ∈ w.series, s.combinations < 2 ^ 64)
    (hderive : derive run w = .ok queries) :
    queries.length = (w.queries.map (·.count.toNat)).sum ∧
      ∃ groups : List (List Query), queries = groups.flatten ∧
        List.Forall₂ (IsWrittenGroup w) w.queries groups := by
  obtain ⟨groups, rfl, hgroups⟩ := exists_groups_of_derive_eq_ok hderive
  exact ⟨length_flatten_of_groups hgroups, groups, rfl,
    hgroups.imp fun _ _ hgroup => hgroup.isWrittenGroup hcounts⟩

/-- A workload with a series of six label sets and queries for exact ones among them. -/
def stockedWorkload : Workload where
  replicas := 2
  series := [⟨"cpu", .counterOne, ⟨[("job", "bench")], List.pairwise_singleton _ _⟩,
    [⟨"mode", "m", 3⟩, ⟨"core", "c", 2⟩]⟩]
  queries := [⟨4, "rate(<<.Name>>\x7b<<.Matchers>>\x7d[1m])", .counterOne, .ofSeconds 10, none,
    true, true⟩]
  write := {}

theorem derived_queries_are_written_stocked :
    ∃ queries, derive "run" stockedWorkload = .ok queries ∧ queries.length = 4 ∧
      ∃ groups : List (List Query), queries = groups.flatten ∧
        List.Forall₂ (IsWrittenGroup stockedWorkload) stockedWorkload.queries groups := by
  have hcheck : check stockedWorkload stockedWorkload.queries.head! =
      .ok ⟨[.literal "rate(".toList, .name, .literal "\x7b".toList, .matchers,
        .literal "\x7d[1m])".toList]⟩ := by cbv
  have hchecks : ∀ d ∈ stockedWorkload.queries, ∃ template,
      check stockedWorkload d = .ok template := by
    intro d hd
    cases List.mem_singleton.1 hd
    exact ⟨_, hcheck⟩
  have hcounts : ∀ s ∈ stockedWorkload.series, s.combinations < 2 ^ 64 := by decide
  obtain ⟨queries, hderive⟩ := exists_derive_eq_ok (by decide) hchecks "run"
  exact ⟨queries, hderive, derived_queries_are_written hcounts hderive⟩

end Query
end MetricLoad
