import MetricLoad.Proofs.Workload.Ticks
import Mathlib.Data.List.Forall2

/-!
# Values follow the seed and the kinds

All series of a generator draw from one random source, in their order and at every tick, whether or
not they have label sets.  How many words a series takes depends on its kind and on the source, and
two kinds take none.  So a series has the values that the seed and the kinds of the drawing series
give it, and whatever else a workload says has no part in them.

Two workloads are compared along a list of edits that leads from the series of the one to the series
of the other.  A tick of both keeps the generators in step: what the edits keep has the same value
on both sides, and the sources are in the same state.
-/

namespace MetricLoad

open MetricLoad.Random

/-- The kinds whose values come without random words. -/
def SeriesKind.DrawsNothing (kind : SeriesKind) : Prop :=
  kind = .gaugeZero ∨ kind = .counterOne

theorem SeriesKind.DrawsNothing.nextValue_snd {γ : Type} [Source γ] {kind : SeriesKind}
    (h : kind.DrawsNothing) (last : Float) (random : γ) :
    (kind.nextValue last random).2 = random := by
  rcases h with rfl | rfl <;> rfl

/-! ## Edits -/

/-- What happens to a series on the way from one list to another. -/
inductive Edit
  | keep
  | remove
  | insert
  deriving DecidableEq, Repr

namespace Edit

/-- Some edits lead from one list to another: what they keep is the `same` in both, and only what is
`extra` is removed or inserted. -/
inductive Leads {α : Type} (same : α → α → Prop) (extra : α → Prop) :
    List Edit → List α → List α → Prop
  | nil : Leads same extra [] [] []
  | keep {edits : List Edit} {x y : α} {xs ys : List α} (hsame : same x y)
      (h : Leads same extra edits xs ys) : Leads same extra (.keep :: edits) (x :: xs) (y :: ys)
  | remove {edits : List Edit} {x : α} {xs ys : List α} (hextra : extra x)
      (h : Leads same extra edits xs ys) : Leads same extra (.remove :: edits) (x :: xs) ys
  | insert {edits : List Edit} {y : α} {xs ys : List α} (hextra : extra y)
      (h : Leads same extra edits xs ys) : Leads same extra (.insert :: edits) xs (y :: ys)

/-- The positions of what is kept, in the first list and in the second. -/
def keptPlaces : List Edit → List (Nat × Nat)
  | [] => []
  | .keep :: edits => (0, 0) :: (keptPlaces edits).map fun place => (place.1 + 1, place.2 + 1)
  | .remove :: edits => (keptPlaces edits).map fun place => (place.1 + 1, place.2)
  | .insert :: edits => (keptPlaces edits).map fun place => (place.1, place.2 + 1)

variable {α β : Type} {same : α → α → Prop} {extra : α → Prop} {edits : List Edit} {xs ys : List α}

theorem Leads.exists_of_mem_keptPlaces (h : Leads same extra edits xs ys) {place : Nat × Nat}
    (hplace : place ∈ keptPlaces edits) :
    ∃ x y, xs[place.1]? = some x ∧ ys[place.2]? = some y ∧ same x y := by
  induction h generalizing place with
  | nil => cases hplace
  | @keep edits x y xs ys hsame _ ih =>
    rcases List.mem_cons.1 hplace with rfl | hlater
    · exact ⟨x, y, rfl, rfl, hsame⟩
    · obtain ⟨earlier, hearlier, rfl⟩ := List.mem_map.1 hlater
      exact ih hearlier
  | remove _ _ ih | insert _ _ ih =>
    obtain ⟨earlier, hearlier, rfl⟩ := List.mem_map.1 hplace
    exact ih hearlier

theorem Leads.map {same' : β → β → Prop} {extra' : β → Prop} {f : α → β}
    (hsame : ∀ x y, same x y → same' (f x) (f y)) (hextra : ∀ x, extra x → extra' (f x))
    (h : Leads same extra edits xs ys) : Leads same' extra' edits (xs.map f) (ys.map f) := by
  induction h with
  | nil => exact .nil
  | keep h _ ih => exact .keep (hsame _ _ h) ih
  | remove h _ ih => exact .remove (hextra _ h) ih
  | insert h _ ih => exact .insert (hextra _ h) ih

/-- Lists that agree all along are led to each other by keeping everything. -/
theorem leads_of_forall₂ (extra : α → Prop) (h : List.Forall₂ same xs ys) :
    Leads same extra (xs.map fun _ => .keep) xs ys := by
  induction h with
  | nil => exact .nil
  | cons hsame _ ih => exact .keep hsame ih

theorem Leads.forall₂_of_keep (h : Leads same extra edits xs ys)
    (hkeep : ∀ edit ∈ edits, edit = .keep) : List.Forall₂ same xs ys := by
  induction h with
  | nil => exact .nil
  | keep hsame _ ih => exact .cons hsame (ih (List.forall_mem_cons.1 hkeep).2)
  | remove | insert => cases (List.forall_mem_cons.1 hkeep).1

end Edit

/-! ## Generators in step -/

/-- Two series that go on alike: of one kind and with one value. -/
structure ExpandedSeries.GoesLike (s t : ExpandedSeries) : Prop where
  kind_eq : s.kind = t.kind
  value_eq : s.value = t.value

namespace Generator

/-- Two generators with the same words before them and the same values where the edits keep a
series. -/
structure InStep (edits : List Edit) (g g' : Generator) : Prop where
  leads : Edit.Leads ExpandedSeries.GoesLike (·.kind.DrawsNothing) edits g.series g'.series
  random_eq : g.random = g'.random

/-- Moving the values of both sides takes the same words, since only kept series take any. -/
theorem leads_advanceSeries {edits : List Edit} {series others : List ExpandedSeries}
    (h : Edit.Leads ExpandedSeries.GoesLike (·.kind.DrawsNothing) edits series others)
    (random : Xoshiro) :
    Edit.Leads ExpandedSeries.GoesLike (·.kind.DrawsNothing) edits
        (advanceSeries series random).1 (advanceSeries others random).1 ∧
      (advanceSeries series random).2 = (advanceSeries others random).2 := by
  induction h generalizing random with
  | nil => exact ⟨.nil, rfl⟩
  | @keep edits s t series others hsame _ ih =>
    have hnext : t.kind.nextValue t.value random = s.kind.nextValue s.value random := by
      rw [hsame.kind_eq, hsame.value_eq]
    obtain ⟨hleads, hrandom⟩ := ih (s.kind.nextValue s.value random).2
    simp only [advanceSeries, hnext]
    exact ⟨.keep ⟨hsame.kind_eq, rfl⟩ hleads, hrandom⟩
  | remove hextra _ ih =>
    simp only [advanceSeries, hextra.nextValue_snd]
    exact ⟨.remove hextra (ih random).1, (ih random).2⟩
  | insert hextra _ ih =>
    simp only [advanceSeries, hextra.nextValue_snd]
    exact ⟨.insert hextra (ih random).1, (ih random).2⟩

theorem inStep_ofWorkload {w other : Workload} {edits : List Edit}
    (h : Edit.Leads (fun s t => s.kind = t.kind) (·.kind.DrawsNothing) edits w.series other.series)
    (options otherOptions : WriteOptions) (seed : UInt64) :
    InStep edits (ofWorkload w options seed) (ofWorkload other otherOptions seed) where
  leads := h.map (fun _ _ hkind => ⟨hkind, rfl⟩) fun _ hextra => hextra
  random_eq := rfl

theorem InStep.tick {edits : List Edit} {g g' : Generator} (h : InStep edits g g')
    (run run' : String) (now now' : Instant) :
    InStep edits (g.tick run now).2 (g'.tick run' now').2 := by
  obtain ⟨hleads, hrandom⟩ := leads_advanceSeries h.leads g'.random
  constructor
  · show Edit.Leads _ _ edits (advanceSeries g.series g.random).1 _
    rw [h.random_eq]
    exact hleads
  · show (advanceSeries g.series g.random).2 = _
    rw [h.random_eq]
    exact hrandom

theorem InStep.after {edits : List Edit} {g g' : Generator} (h : InStep edits g g')
    {ticks ticks' : List (String × Instant)} (hticks : ticks.length = ticks'.length) :
    InStep edits (g.after ticks) (g'.after ticks') := by
  induction ticks generalizing g g' ticks' with
  | nil =>
    cases List.length_eq_zero_iff.1 hticks.symm
    exact h
  | cons tick later ih =>
    obtain ⟨tick', later', rfl⟩ := List.exists_cons_of_length_eq_add_one hticks.symm
    exact ih (h.tick _ _ _ _) (Nat.succ.inj hticks)

theorem InStep.exists_value {edits : List Edit} {g g' : Generator} (h : InStep edits g g')
    {place : Nat × Nat} (hplace : place ∈ Edit.keptPlaces edits) :
    ∃ value, g.values[place.1]? = some value ∧ g'.values[place.2]? = some value := by
  obtain ⟨s, t, hs, ht, hlike⟩ := h.leads.exists_of_mem_keptPlaces hplace
  refine ⟨s.value, ?_, ?_⟩
  · rw [values, List.getElem?_map, hs, Option.map_some]
  · rw [values, List.getElem?_map, ht, Option.map_some, hlike.value_eq]

theorem InStep.values_eq {edits : List Edit} {g g' : Generator} (h : InStep edits g g')
    (hkeep : ∀ edit ∈ edits, edit = .keep) : g.values = g'.values := by
  have hvalues : List.Forall₂ Eq g.values g'.values := by
    rw [values, values, List.forall₂_map_left_iff, List.forall₂_map_right_iff]
    exact (h.leads.forall₂_of_keep hkeep).imp fun _ _ hlike => hlike.value_eq
  rwa [List.forall₂_eq_eq_eq] at hvalues

/-- Two workloads under one seed, after as many ticks of any runs at any times.  Where their series
have the same kinds, all values are the same doubles.  Where edits lead from the one to the other
that remove and insert only series that are always zero or grow by one, the series that they keep
have the same values. -/
theorem values_follow_seed_and_kinds (w w' : Workload) (options options' : WriteOptions)
    (seed : UInt64) {ticks ticks' : List (String × Instant)}
    (hticks : ticks.length = ticks'.length) :
    let g := (ofWorkload w options seed).after ticks
    let g' := (ofWorkload w' options' seed).after ticks'
    (w.series.map (·.kind) = w'.series.map (·.kind) → g.values = g'.values) ∧
      ∀ edits, Edit.Leads (fun s s' => s.kind = s'.kind) (·.kind.DrawsNothing) edits w.series
          w'.series →
        ∀ place ∈ Edit.keptPlaces edits,
          ∃ value, g.values[place.1]? = some value ∧ g'.values[place.2]? = some value := by
  intro g g'
  constructor
  · intro hkinds
    rw [← List.forall₂_eq_eq_eq, List.forall₂_map_left_iff, List.forall₂_map_right_iff] at hkinds
    have hkeeps := Edit.leads_of_forall₂ (·.kind.DrawsNothing) hkinds
    exact ((inStep_ofWorkload hkeeps options options' seed).after hticks).values_eq (by simp)
  · intro edits hedits place hplace
    exact ((inStep_ofWorkload hedits options options' seed).after hticks).exists_value hplace

/-- A series without label sets and one with, both of kinds that draw, and between them one that is
always zero. -/
def drawingWorkload : Workload where
  replicas := 1
  series := [⟨"cpu", .counterRandom, .empty, [⟨"core", "c", 0⟩]⟩, ⟨"up", .gaugeZero, .empty, []⟩,
    ⟨"heat", .gaugeRandom, .empty, []⟩]
  queries := []
  write := {}

/-- Other series of the same kinds, but for one that grows by one in front and none that is always
zero. -/
def shiftedWorkload : Workload where
  replicas := 2
  series := [⟨"ticks", .counterOne, .empty, []⟩,
    ⟨"requests", .counterRandom, .empty, [⟨"path", "p", 3⟩]⟩, ⟨"load", .gaugeRandom, .empty, []⟩]
  queries := []
  write := {}

/-- The first series of the one workload is the second of the other, and both end with the same
one. -/
theorem values_follow_seed_and_kinds_shifted :
    let g := (ofWorkload drawingWorkload .standard 7).after [("first", .epoch), ("first", ⟨15⟩)]
    let g' := (ofWorkload shiftedWorkload .standard 7).after [("a", ⟨30⟩), ("b", .epoch)]
    (∃ value, g.values[0]? = some value ∧ g'.values[1]? = some value) ∧
      (∃ value, g.values[2]? = some value ∧ g'.values[2]? = some value) ∧
      g.values = ((ofWorkload { drawingWorkload with replicas := 3 } .standard 7).after
        [("a", ⟨30⟩), ("b", .epoch)]).values := by
  intro g g'
  have hedits : Edit.Leads (fun s s' => s.kind = s'.kind) (·.kind.DrawsNothing)
      [.insert, .keep, .remove, .keep] drawingWorkload.series shiftedWorkload.series :=
    .insert (.inr rfl) (.keep rfl (.remove (.inl rfl) (.keep rfl .nil)))
  have hticks : [("first", Instant.epoch), ("first", ⟨15⟩)].length =
      [("a", ⟨30⟩), ("b", Instant.epoch)].length := rfl
  have hkept := (values_follow_seed_and_kinds drawingWorkload shiftedWorkload .standard .standard 7
    hticks).2 _ hedits
  have hsame := (values_follow_seed_and_kinds drawingWorkload { drawingWorkload with replicas := 3 }
    .standard .standard 7 hticks).1 rfl
  exact ⟨hkept (0, 1) (by decide), hkept (2, 2) (by decide), hsame⟩

end Generator
end MetricLoad
