import MetricLoad.Workload.Generator
import Mathlib.Data.List.Basic

/-!
# Ticks of a generator

A tick moves the values of the series and the random source and leaves everything else of a
generator as it is.  What it emits holds, for every replica and every label set, one series with the
labels of the set, the replica and the run.

`emissions` lists what successive ticks emit, each with a run identity and a time of its own.
`expansion` is what all generators of a run share: the kinds and the label sets of one workload.
-/

namespace MetricLoad.Generator

/-- What successive ticks emit, one list of series for each tick. -/
def emissions : Generator → List (String × Instant) → List (List TimeSeries)
  | _, [] => []
  | g, (run, now) :: later => (g.tick run now).1 :: emissions (g.tick run now).2 later

/-- The generator after some ticks. -/
def after (g : Generator) (ticks : List (String × Instant)) : Generator :=
  ticks.foldl (fun g tick => (g.tick tick.1 tick.2).2) g

/-- One more tick emits from the generator that the earlier ticks leave. -/
theorem emissions_concat (g : Generator) (ticks : List (String × Instant)) (run : String)
    (now : Instant) :
    g.emissions (ticks ++ [(run, now)]) =
      g.emissions ticks ++ [((g.after ticks).tick run now).1] := by
  induction ticks generalizing g with
  | nil => rfl
  | cons tick later ih =>
    obtain ⟨run', now'⟩ := tick
    exact congrArg (_ :: ·) (ih (g.tick run' now').2)

theorem after_concat (g : Generator) (ticks : List (String × Instant)) (run : String)
    (now : Instant) : g.after (ticks ++ [(run, now)]) = ((g.after ticks).tick run now).2 := by
  simp [after]

/-- What does not change from tick to tick: the kinds of the series and their label sets. -/
def expansion (g : Generator) : List (SeriesKind × List (List Label)) :=
  g.series.map fun s => (s.kind, s.labelSets)

theorem map_advanceSeries (series : List ExpandedSeries) (random : Random.Xoshiro) :
    (advanceSeries series random).1.map (fun s => (s.kind, s.labelSets)) =
      series.map fun s => (s.kind, s.labelSets) := by
  induction series generalizing random with
  | nil => rfl
  | cons s rest ih => simp [advanceSeries, ih]

@[simp]
theorem expansion_advance (g : Generator) : g.advance.expansion = g.expansion :=
  map_advanceSeries g.series g.random

@[simp]
theorem expansion_ofWorkload (w : Workload) (options : WriteOptions) (seed : UInt64) :
    (ofWorkload w options seed).expansion = w.series.map fun s => (s.kind, s.labelSets) := by
  simp [expansion, ofWorkload, SeriesTemplate.expanded]

/-- A generator that another one has come to: the same but for the values and the random source. -/
structure Continues (next g : Generator) : Prop where
  replicas_eq : next.replicas = g.replicas
  options_eq : next.options = g.options
  expansion_eq : next.expansion = g.expansion

theorem Continues.trans {g next last : Generator} (h : last.Continues next)
    (hg : next.Continues g) : last.Continues g :=
  ⟨h.replicas_eq.trans hg.replicas_eq, h.options_eq.trans hg.options_eq,
    h.expansion_eq.trans hg.expansion_eq⟩

theorem continues_advance (g : Generator) : g.advance.Continues g :=
  ⟨rfl, rfl, expansion_advance g⟩

/-- Ticks change the values and the random source alone. -/
theorem continues_after (g : Generator) (ticks : List (String × Instant)) :
    (g.after ticks).Continues g := by
  induction ticks generalizing g with
  | nil => exact ⟨rfl, rfl, rfl⟩
  | cons tick later ih => exact (ih (g.tick tick.1 tick.2).2).trans (continues_advance g)

/-- A label set of the expansion is emitted for each replica, with the replica and the run behind
its own labels. -/
theorem exists_mem_emit {g : Generator} {kind : SeriesKind} {sets : List (List Label)}
    {labels : List Label} {replica : Nat} (hsets : (kind, sets) ∈ g.expansion)
    (hlabels : labels ∈ sets) (hreplica : replica < g.replicas) (run : String) (now : Instant) :
    ∃ emitted ∈ g.emit run now,
      emitted.labels = labels ++ [⟨replicaLabel, replicaName replica⟩, ⟨runLabel, run⟩] := by
  obtain ⟨s, hs, heq⟩ := List.mem_map.1 hsets
  cases heq
  refine ⟨_, List.mem_flatMap.2 ⟨replica, List.mem_range.2 hreplica,
    List.mem_flatMap.2 ⟨s, hs, List.mem_map.2 ⟨labels, hlabels, rfl⟩⟩⟩, rfl⟩

/-- Every tick emits from a generator that the first one has come to. -/
theorem exists_emit_of_mem_emissions {g : Generator} {ticks : List (String × Instant)}
    {emitted : List TimeSeries} (hemitted : emitted ∈ g.emissions ticks) :
    ∃ (next : Generator) (run : String) (now : Instant), (run, now) ∈ ticks ∧
      next.Continues g ∧ emitted = next.emit run now := by
  induction ticks generalizing g with
  | nil => cases hemitted
  | cons tick later ih =>
    obtain ⟨run, now⟩ := tick
    rcases List.mem_cons.1 hemitted with rfl | hlater
    · -- A tick advances first, so already the first one emits from another generator.
      exact ⟨g.advance, run, now, List.mem_cons_self, continues_advance g, rfl⟩
    · obtain ⟨next, run', now', hmem, hnext, hemit⟩ := ih hlater
      exact ⟨next, run', now', List.mem_cons_of_mem _ hmem, hnext.trans (continues_advance g), hemit⟩

end MetricLoad.Generator
