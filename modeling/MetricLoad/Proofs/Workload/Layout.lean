import MetricLoad.Proofs.Workload.LabelSets
import MetricLoad.Proofs.Workload.Ticks
import Mathlib.Algebra.Ring.Nat

/-!
# What a tick emits, and where

A tick emits one block for every replica, and in it one run of samples for every series, in the
order of the description and with one sample for every label set.  The lengths of the runs are the
numbers of label sets, which no tick changes, so the place of a sample is known before the first
tick: the replica times the number of all label sets, plus the label sets of the earlier series,
plus the index of the label set.

The counts of label sets are kept apart from the samples, one running total and one total for every
kind.  They are the sums that the places are made of.
-/

namespace MetricLoad

/-! ## Counts of label sets -/

namespace SeriesCounts

@[simp]
theorem total_add (c : SeriesCounts) (kind : SeriesKind) (sets : Nat) :
    (c.add kind sets).total = c.total + sets := rfl

theorem ofKind_add (c : SeriesCounts) (kind added : SeriesKind) (sets : Nat) :
    (c.add added sets).ofKind kind = c.ofKind kind + if added = kind then sets else 0 := by
  unfold ofKind add
  by_cases h : added = kind
  · subst h
    rw [Metrics.Family.get?_modify_self, Option.getD_some, if_pos rfl]
  · rw [Metrics.Family.get?_modify_of_ne _ _ (Ne.symm h), if_neg h, Nat.add_zero]

@[simp]
theorem ofKind_zero (kind : SeriesKind) : zero.ofKind kind = 0 := by
  cases kind <;> rfl

end SeriesCounts

namespace Generator

theorem total_foldl_add (series : List ExpandedSeries) (c : SeriesCounts) :
    (series.foldl (fun c s => c.add s.kind s.labelSets.length) c).total =
      c.total + (series.map (·.labelSets.length)).sum := by
  induction series generalizing c with
  | nil => rfl
  | cons s rest ih =>
    rw [List.foldl_cons, ih, SeriesCounts.total_add, List.map_cons, List.sum_cons, Nat.add_assoc]

theorem ofKind_foldl_add (kind : SeriesKind) (series : List ExpandedSeries) (c : SeriesCounts) :
    (series.foldl (fun c s => c.add s.kind s.labelSets.length) c).ofKind kind =
      c.ofKind kind + ((series.filter (·.kind = kind)).map (·.labelSets.length)).sum := by
  induction series generalizing c with
  | nil => rfl
  | cons s rest ih =>
    rw [List.foldl_cons, ih, SeriesCounts.ofKind_add, List.filter_cons]
    by_cases h : s.kind = kind
    · simp [h, Nat.add_assoc]
    · simp [h]

theorem totalSeries_eq_sum (g : Generator) :
    g.totalSeries = (g.series.map (·.labelSets.length)).sum := by
  rw [totalSeries, counts, total_foldl_add]
  exact Nat.zero_add _

theorem seriesOfKind_eq_sum (g : Generator) (kind : SeriesKind) :
    g.seriesOfKind kind =
      ((g.series.filter (·.kind = kind)).map (·.labelSets.length)).sum := by
  rw [seriesOfKind, counts, ofKind_foldl_add, SeriesCounts.ofKind_zero, Nat.zero_add]

/-- Every series has one of the kinds. -/
theorem sum_filter_kind (series : List ExpandedSeries) :
    (SeriesKind.all.map fun kind =>
      ((series.filter (·.kind = kind)).map (·.labelSets.length)).sum).sum =
      (series.map (·.labelSets.length)).sum := by
  induction series with
  | nil => rfl
  | cons s rest ih =>
    -- The first series adds its label sets to the sum of its own kind alone.
    rw [List.map_cons, List.sum_cons, ← ih]
    cases hkind : s.kind <;> simp [SeriesKind.all, hkind] <;> omega

theorem sum_seriesOfKind (g : Generator) :
    (SeriesKind.all.map g.seriesOfKind).sum = g.totalSeries := by
  rw [totalSeries_eq_sum, ← sum_filter_kind]
  exact congrArg List.sum (List.map_congr_left fun kind _ => g.seriesOfKind_eq_sum kind)

/-! ## What ticks leave as it is -/

/-- The expansion determines every sum over the label sets. -/
theorem map_length_labelSets (g : Generator) :
    g.series.map (·.labelSets.length) = g.expansion.map (·.2.length) := by
  rw [expansion, List.map_map]
  rfl

theorem Continues.totalSeries_eq {g next : Generator} (h : next.Continues g) :
    next.totalSeries = g.totalSeries := by
  rw [totalSeries_eq_sum, totalSeries_eq_sum, map_length_labelSets, map_length_labelSets,
    h.expansion_eq]

theorem map_labelSets_eq {w : Workload} {g : Generator}
    (hg : g.expansion = w.series.map fun s => (s.kind, s.labelSets)) :
    g.series.map (·.labelSets.length) = w.series.map (·.labelSets.length) := by
  rw [map_length_labelSets, hg, List.map_map]
  rfl

theorem map_labelSets_filter_eq {w : Workload} {g : Generator} (kind : SeriesKind)
    (hg : g.expansion = w.series.map fun s => (s.kind, s.labelSets)) :
    (g.series.filter (·.kind = kind)).map (·.labelSets.length) =
      (w.series.filter (·.kind = kind)).map (·.labelSets.length) := by
  have hlengths := congrArg (fun l : List (SeriesKind × List (List Label)) =>
    (l.filter (·.1 = kind)).map (·.2.length)) hg
  simpa [expansion, List.filter_map, Function.comp_def] using hlengths

/-! ## Places -/

/-- In a concatenation, an index is the lengths of the parts before one part and a place in it. -/
theorem getElem?_flatMap_of_sum_take {α β : Type} {f : α → List β} {parts : List α} {part : α}
    {index place : Nat} (hpart : parts[index]? = some part) (hplace : place < (f part).length) :
    (parts.flatMap f)[((parts.take index).map fun p => (f p).length).sum + place]? =
      (f part)[place]? := by
  induction parts generalizing index with
  | nil => cases hpart
  | cons first rest ih =>
    cases index with
    | zero =>
      cases hpart
      rw [List.take_zero, List.map_nil, List.sum_nil, Nat.zero_add, List.flatMap_cons,
        List.getElem?_append_left hplace]
    | succ index =>
      rw [List.take_succ_cons, List.map_cons, List.sum_cons, Nat.add_assoc, List.flatMap_cons,
        List.getElem?_append_right (Nat.le_add_right _ _), Nat.add_sub_cancel_left]
      exact ih hpart

/-- What one replica emits. -/
def emitReplica (g : Generator) (run : String) (now : Instant) (replica : Nat) :
    List TimeSeries :=
  g.series.flatMap (emitSeries run now.timestampMillis replica)

theorem emit_eq_flatMap (g : Generator) (run : String) (now : Instant) :
    g.emit run now = (List.range g.replicas).flatMap (g.emitReplica run now) := rfl

theorem length_emitReplica (g : Generator) (run : String) (now : Instant) (replica : Nat) :
    (g.emitReplica run now replica).length = g.totalSeries := by
  rw [emitReplica, List.length_flatMap, totalSeries_eq_sum]
  simp [emitSeries]

theorem length_emit (g : Generator) (run : String) (now : Instant) :
    (g.emit run now).length = g.replicas * g.totalSeries := by
  rw [emit_eq_flatMap, length_flatMap_range_of_length (g.length_emitReplica run now), Nat.mul_comm]

theorem length_tick (g : Generator) (run : String) (now : Instant) :
    (g.tick run now).1.length = g.replicas * g.totalSeries := by
  rw [← (continues_advance g).totalSeries_eq]
  exact length_emit g.advance run now

/-- The number of label sets of the series before one. -/
def setsBefore (g : Generator) (index : Nat) : Nat :=
  ((g.series.take index).map (·.labelSets.length)).sum

theorem setsBefore_add_lt {g : Generator} {index : Nat} {s : ExpandedSeries}
    (hs : g.series[index]? = some s) {set : Nat} (hset : set < s.labelSets.length) :
    g.setsBefore index + set < g.totalSeries := by
  obtain ⟨hindex, rfl⟩ := List.getElem?_eq_some_iff.1 hs
  have hsplit : g.series.take index ++ g.series[index] :: g.series.drop (index + 1) = g.series := by
    rw [List.getElem_cons_drop, List.take_append_drop]
  have hsum := congrArg (fun l => (l.map (·.labelSets.length)).sum) hsplit
  simp only [List.map_append, List.sum_append, List.map_cons, List.sum_cons] at hsum
  rw [totalSeries_eq_sum, setsBefore, ← hsum]
  omega

/-- What a replica emits for a label set of a series. -/
theorem getElem?_emitReplica {g : Generator} {index : Nat} {s : ExpandedSeries}
    (hs : g.series[index]? = some s) {set : Nat} {labels : List Label}
    (hset : s.labelSets[set]? = some labels) (run : String) (now : Instant) (replica : Nat) :
    (g.emitReplica run now replica)[g.setsBefore index + set]? =
      some ⟨labels ++ [⟨replicaLabel, replicaName replica⟩, ⟨runLabel, run⟩],
        [⟨s.value.toBits, now.timestampMillis⟩]⟩ := by
  have hbefore : g.setsBefore index = ((g.series.take index).map fun s =>
      (emitSeries run now.timestampMillis replica s).length).sum := by
    simp [setsBefore, emitSeries]
  have hplace : set < (emitSeries run now.timestampMillis replica s).length := by
    rw [emitSeries, List.length_map]
    exact (List.getElem?_eq_some_iff.1 hset).1
  rw [emitReplica, hbefore, getElem?_flatMap_of_sum_take hs hplace, emitSeries, List.getElem?_map,
    hset, Option.map_some]

/-- The blocks of the replicas follow one another. -/
theorem getElem?_emit {g : Generator} {replica place : Nat} (hreplica : replica < g.replicas)
    (hplace : place < g.totalSeries) (run : String) (now : Instant) :
    (g.emit run now)[replica * g.totalSeries + place]? =
      (g.emitReplica run now replica)[place]? := by
  -- Every block is as long as the first, so the place names its block by division.
  have hbound : replica * g.totalSeries + place < g.totalSeries * g.replicas := by
    calc replica * g.totalSeries + place
        < replica * g.totalSeries + g.totalSeries := Nat.add_lt_add_left hplace _
      _ = g.totalSeries * (replica + 1) := by rw [Nat.mul_succ, Nat.mul_comm]
      _ ≤ g.totalSeries * g.replicas := Nat.mul_le_mul_left _ hreplica
  rw [emit_eq_flatMap, getElem?_flatMap_range_of_length (g.length_emitReplica run now) hbound,
    Nat.mul_comm replica, Nat.mul_add_div (Nat.zero_lt_of_lt hplace), Nat.div_eq_of_lt hplace,
    Nat.add_zero, Nat.mul_add_mod, Nat.mod_eq_of_lt hplace]

end Generator

/-! ## Ticks of a workload -/

/-- The number of label sets of the series before one, in the order of a description. -/
def Workload.setsBefore (w : Workload) (index : Nat) : Nat :=
  ((w.series.take index).map (·.labelSets.length)).sum

namespace Generator

/-- A tick of the generator of a workload: what it emits, and the generator after it.  Every label
set of a series has its place for every replica, and all of them carry the value that the series has
after the tick. -/
structure IsTick (w : Workload) (g : Generator) (run : String) (now : Instant)
    (emitted : List TimeSeries) (next : Generator) : Prop where
  length_eq : emitted.length = w.replicas.toNat * g.totalSeries
  getElem?_eq : ∀ (index : Nat) (s : SeriesTemplate), w.series[index]? = some s →
    ∃ value, next.values[index]? = some value ∧
      ∀ replica < w.replicas.toNat, ∀ (set : Nat) (labels : List Label),
        s.labelSets[set]? = some labels →
        emitted[replica * g.totalSeries + (w.setsBefore index + set)]? =
          some ⟨labels ++ [⟨replicaLabel, replicaName replica⟩, ⟨runLabel, run⟩],
            [⟨value.toBits, now.timestampMillis⟩]⟩
  next_eq : next = { g with series := next.series, random := next.random }
  expansion_eq : next.expansion = g.expansion

theorem setsBefore_eq {w : Workload} {g : Generator}
    (hg : g.expansion = w.series.map fun s => (s.kind, s.labelSets)) (index : Nat) :
    g.setsBefore index = w.setsBefore index := by
  rw [setsBefore, Workload.setsBefore, List.map_take, List.map_take, map_labelSets_eq hg]

/-- A series of the description is a series of the generator, at the same position. -/
theorem exists_getElem?_series {w : Workload} {g : Generator}
    (hg : g.expansion = w.series.map fun s => (s.kind, s.labelSets)) {index : Nat}
    {s : SeriesTemplate} (hs : w.series[index]? = some s) :
    ∃ expanded, g.series[index]? = some expanded ∧ expanded.labelSets = s.labelSets := by
  have hentry : g.expansion[index]? = some (s.kind, s.labelSets) := by
    rw [hg, List.getElem?_map, hs, Option.map_some]
  rw [expansion, List.getElem?_map] at hentry
  obtain ⟨expanded, hexpanded, heq⟩ := Option.map_eq_some_iff.1 hentry
  exact ⟨expanded, hexpanded, congrArg Prod.snd heq⟩

theorem isTick_tick {w : Workload} {g : Generator} (hreplicas : g.replicas = w.replicas.toNat)
    (hg : g.expansion = w.series.map fun s => (s.kind, s.labelSets)) (run : String)
    (now : Instant) : IsTick w g run now (g.tick run now).1 (g.tick run now).2 := by
  have hadvance : g.advance.expansion = w.series.map fun s => (s.kind, s.labelSets) :=
    (expansion_advance g).trans hg
  have htotal : g.advance.totalSeries = g.totalSeries := (continues_advance g).totalSeries_eq
  constructor
  case length_eq =>
    rw [length_tick, hreplicas]
  case getElem?_eq =>
    intro index s hs
    obtain ⟨expanded, hexpanded, hsets⟩ := exists_getElem?_series hadvance hs
    refine ⟨expanded.value, ?_, fun replica hreplica set labels hset => ?_⟩
    · show (g.advance.series.map (·.value))[index]? = _
      rw [List.getElem?_map, hexpanded, Option.map_some]
    · -- The samples are emitted from the generator whose values have already moved.
      have hset' : expanded.labelSets[set]? = some labels := by rw [hsets, hset]
      have hplace := setsBefore_add_lt hexpanded (List.getElem?_eq_some_iff.1 hset').1
      have hreplica' : replica < g.advance.replicas := by
        rw [← hreplicas] at hreplica
        exact hreplica
      show (g.advance.emit run now)[_]? = _
      rw [← setsBefore_eq hadvance, ← htotal, getElem?_emit hreplica' hplace,
        getElem?_emitReplica hexpanded hset']
  case next_eq =>
    -- Only the values and the random source are written to.
    rfl
  case expansion_eq => exact expansion_advance g

/-- After any ticks, the counts of label sets are those of the description, and the next tick emits
one sample for every replica and label set, each in its place. -/
theorem tick_emits_labelSets_in_place (w : Workload) (options : WriteOptions) (seed : UInt64)
    (ticks : List (String × Instant)) :
    let g := (ofWorkload w options seed).after ticks
    g.totalSeries = (w.series.map (·.labelSets.length)).sum ∧
      g.totalSeries = (SeriesKind.all.map g.seriesOfKind).sum ∧
      (∀ kind, g.seriesOfKind kind =
        ((w.series.filter (·.kind = kind)).map (·.labelSets.length)).sum) ∧
      ∀ run now, IsTick w g run now (g.tick run now).1 (g.tick run now).2 := by
  intro g
  have hcontinues := continues_after (ofWorkload w options seed) ticks
  have hg : g.expansion = w.series.map fun s => (s.kind, s.labelSets) :=
    hcontinues.expansion_eq.trans (expansion_ofWorkload w options seed)
  have hreplicas : g.replicas = w.replicas.toNat := hcontinues.replicas_eq
  refine ⟨?_, g.sum_seriesOfKind.symm, fun kind => ?_, isTick_tick hreplicas hg⟩
  · rw [totalSeries_eq_sum, map_labelSets_eq hg]
  · rw [seriesOfKind_eq_sum, map_labelSets_filter_eq kind hg]

/-- Two replicas of a series with two label sets, of one with none, and of one with a single set. -/
def unevenWorkload : Workload where
  replicas := 2
  series := [⟨"cpu", .counterOne, .empty, [⟨"core", "c", 2⟩]⟩,
    ⟨"idle", .gaugeRandom, .empty, [⟨"core", "c", 0⟩]⟩, ⟨"up", .gaugeZero, .empty, []⟩]
  queries := []
  write := {}

/-- The last sample of a second tick belongs to the last series and the last replica. -/
theorem tick_emits_labelSets_in_place_uneven :
    let g := (ofWorkload unevenWorkload ⟨.ofSeconds 1, .ofSeconds 1, 1⟩ 7).after [("first", .epoch)]
    (g.tick "second" ⟨1500000000⟩).1.length = 6 ∧
      ∃ value, (g.tick "second" ⟨1500000000⟩).2.values[2]? = some value ∧
        (g.tick "second" ⟨1500000000⟩).1[5]? = some
          ⟨[⟨"__name__", "up"⟩, ⟨"bench_replica", "replica-00001"⟩, ⟨"bench_id", "second"⟩],
            [⟨value.toBits, 1500⟩]⟩ := by
  intro g
  obtain ⟨htotal, -, -, hticks⟩ := tick_emits_labelSets_in_place unevenWorkload
    ⟨.ofSeconds 1, .ofSeconds 1, 1⟩ 7 [("first", .epoch)]
  have hthree : g.totalSeries = 3 := htotal
  have htick := hticks "second" ⟨1500000000⟩
  obtain ⟨value, hvalue, hplaces⟩ := htick.getElem?_eq 2 _ rfl
  have hplace := hplaces 1 (by decide) 0 _ rfl
  refine ⟨?_, value, hvalue, ?_⟩
  · rw [htick.length_eq]
    show 2 * g.totalSeries = 6
    rw [hthree]
  · rw [show g.totalSeries = 3 from hthree] at hplace
    have hname : replicaName 1 = "replica-00001" := by decide
    rw [hname] at hplace
    exact hplace

end Generator
end MetricLoad
