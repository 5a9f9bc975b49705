import MetricLoad.Proofs.Random.Uniform
import MetricLoad.Query.Derivation
import Mathlib.Data.List.Forall2

/-!
# What derivation selects

Every selection that is drawn belongs to the choice it is drawn from: its series is a candidate, its
replica exists, and it has a label set exactly when one is asked for and the series has any.  The
queries of a workload come in groups, one for each description, in order; whether derivation
succeeds is decided by the checks of the descriptions and never by what is drawn.
-/

namespace MetricLoad

open MetricLoad.Random

/-- What a selection keeps to, whatever the source of random words gives. -/
structure Selection.IsDrawnFrom (candidates : List SeriesTemplate) (replicas : Nat)
    (exactSeries : Bool) (s : Selection) : Prop where
  series_mem : s.series ∈ candidates
  replica_lt : s.replica < replicas
  labelSet_lt : ∀ index ∈ s.labelSet, index < s.series.labelSetCount.toNat
  labelSet_isSome : s.labelSet.isSome ↔ exactSeries = true ∧ s.series.labelSetCount ≠ 0

namespace Query

theorem toNat_pos_of_ne_zero {n : UInt64} (h : n ≠ 0) : 0 < n.toNat :=
  UInt64.lt_iff_toNat_lt.1 (UInt64.pos_iff_ne_zero.2 h)

theorem drawLabelSet_lt (s : SeriesTemplate) (random : ChaCha) :
    ∀ index ∈ (drawLabelSet s random).1, index < s.labelSetCount.toNat := by
  intro index hindex
  unfold drawLabelSet at hindex
  split at hindex
  · cases hindex
  · rename_i hcount
    cases hindex
    exact drawIndex_lt (toNat_pos_of_ne_zero hcount) random

theorem isSome_drawLabelSet (s : SeriesTemplate) (random : ChaCha) :
    (drawLabelSet s random).1.isSome ↔ s.labelSetCount ≠ 0 := by
  unfold drawLabelSet
  split <;> simp_all

theorem isDrawnFrom_drawSelection {candidates : List SeriesTemplate} {replicas : Nat}
    (hcandidates : candidates ≠ []) (hreplicas : 0 < replicas) (exactSeries : Bool)
    (random : ChaCha) :
    (drawSelection candidates replicas exactSeries random).1.IsDrawnFrom candidates replicas
      exactSeries := by
  have hposition := drawIndex_lt (List.length_pos_iff.2 hcandidates) random
  constructor
  case series_mem =>
    simp only [drawSelection, List.getD_eq_getElem?_getD, List.getElem?_eq_getElem hposition,
      Option.getD_some]
    exact List.getElem_mem hposition
  case replica_lt => exact drawIndex_lt hreplicas _
  case labelSet_lt =>
    cases exactSeries with
    | false => simp [drawSelection]
    | true =>
      simp only [drawSelection, if_true]
      exact drawLabelSet_lt _ _
  case labelSet_isSome =>
    cases exactSeries with
    | false => simp [drawSelection]
    | true =>
      simp only [drawSelection, if_true, true_and]
      exact isSome_drawLabelSet _ _

theorem length_drawSelections (candidates : List SeriesTemplate) (replicas : Nat)
    (exactSeries : Bool) (count : Nat) (random : ChaCha) :
    (drawSelections candidates replicas exactSeries count random).1.length = count := by
  induction count generalizing random with
  | zero => rfl
  | succ count ih => simp [drawSelections, ih]

theorem isDrawnFrom_of_mem_drawSelections {candidates : List SeriesTemplate} {replicas : Nat}
    (hcandidates : candidates ≠ []) (hreplicas : 0 < replicas) {exactSeries : Bool} {count : Nat}
    {random : ChaCha} {s : Selection}
    (hs : s ∈ (drawSelections candidates replicas exactSeries count random).1) :
    s.IsDrawnFrom candidates replicas exactSeries := by
  induction count generalizing random with
  | zero => cases hs
  | succ count ih =>
    rcases List.mem_cons.1 hs with rfl | hlater
    · exact isDrawnFrom_drawSelection hcandidates hreplicas exactSeries random
    · exact ih hlater

/-! ## Checks -/

theorem check_eq_ok_iff {w : Workload} {d : QueryDescription} {template : QueryTemplate} :
    check w d = .ok template ↔
      d.interval.isZero = false ∧ QueryTemplate.parse d.expression = .ok template ∧
        candidates w d.kind ≠ [] := by
  unfold check
  split
  · simp_all
  · split <;> simp_all
    split <;> simp_all

theorem mem_candidates {w : Workload} {kind : SeriesKind} {s : SeriesTemplate} :
    s ∈ candidates w kind ↔ s ∈ w.series ∧ s.kind = kind := by
  simp [candidates]

/-! ## Outcomes -/

/-- A description that passes its check gives the queries of what is drawn for it, and the later
descriptions go on with the stream from there. -/
theorem deriveFrom_cons_eq_ok_iff {w : Workload} {d : QueryDescription}
    {rest : List QueryDescription} {random : ChaCha} {queries : List Query} :
    deriveFrom w (d :: rest) random = .ok queries ↔
      ∃ template later, check w d = .ok template ∧
        deriveFrom w rest (drawSelections (candidates w d.kind) w.replicas.toNat d.exactSeries
          d.count.toNat random).2 = .ok later ∧
        queries = (drawSelections (candidates w d.kind) w.replicas.toNat d.exactSeries
          d.count.toNat random).1.map (ofSelection d template) ++ later := by
  constructor
  · intro hderive
    simp only [deriveFrom] at hderive
    split at hderive
    · cases hderive
    · rename_i template hcheck
      split at hderive
      · cases hderive
      · rename_i later hlater
        cases hderive
        exact ⟨template, later, hcheck, hlater, rfl⟩
  · rintro ⟨template, later, hcheck, hlater, rfl⟩
    simp only [deriveFrom, hcheck, hlater]

/-- Queries need a replica to ask for; apart from that, derivation goes through all descriptions. -/
theorem derive_eq_ok_iff {run : String} {w : Workload} {queries : List Query} :
    derive run w = .ok queries ↔
      (w.queries = [] ∨ w.replicas ≠ 0) ∧ deriveFrom w w.queries (runStream run) = .ok queries := by
  unfold derive
  by_cases hqueries : w.queries = []
  · simp [hqueries, deriveFrom]
  · by_cases hreplicas : w.replicas = 0 <;> simp [hqueries, hreplicas]

/-! ## Groups of queries -/

/-- The queries of one description: as many as it asks for, each of a drawn selection. -/
structure IsGroupOf (w : Workload) (d : QueryDescription) (group : List Query) : Prop where
  length_eq : group.length = d.count.toNat
  of_selection : ∀ q ∈ group, ∃ template selection,
    QueryTemplate.parse d.expression = .ok template ∧
      selection.IsDrawnFrom (candidates w d.kind) w.replicas.toNat d.exactSeries ∧
      q = ofSelection d template selection

theorem length_flatten_of_groups {w : Workload} {descriptions : List QueryDescription}
    {groups : List (List Query)} (hgroups : List.Forall₂ (IsGroupOf w) descriptions groups) :
    groups.flatten.length = (descriptions.map (·.count.toNat)).sum := by
  induction hgroups with
  | nil => rfl
  | cons hgroup _ ih =>
    rw [List.flatten_cons, List.length_append, hgroup.length_eq, ih, List.map_cons, List.sum_cons]

theorem isGroupOf_drawSelections {w : Workload} (hreplicas : w.replicas ≠ 0)
    {d : QueryDescription} {template : QueryTemplate} (hcheck : check w d = .ok template)
    (random : ChaCha) :
    IsGroupOf w d ((drawSelections (candidates w d.kind) w.replicas.toNat d.exactSeries
      d.count.toNat random).1.map (ofSelection d template)) := by
  obtain ⟨-, hparse, hcandidates⟩ := check_eq_ok_iff.1 hcheck
  have hpositive := toNat_pos_of_ne_zero hreplicas
  constructor
  · rw [List.length_map, length_drawSelections]
  · intro q hq
    obtain ⟨selection, hselection, rfl⟩ := List.mem_map.1 hq
    exact ⟨template, selection, hparse,
      isDrawnFrom_of_mem_drawSelections hcandidates hpositive hselection, rfl⟩

theorem exists_groups_of_deriveFrom_eq_ok {w : Workload} (hreplicas : w.replicas ≠ 0)
    {descriptions : List QueryDescription} {random : ChaCha} {queries : List Query}
    (hderive : deriveFrom w descriptions random = .ok queries) :
    ∃ groups : List (List Query), queries = groups.flatten ∧
      List.Forall₂ (IsGroupOf w) descriptions groups := by
  induction descriptions generalizing random queries with
  | nil =>
    cases hderive
    exact ⟨[], rfl, .nil⟩
  | cons d rest ih =>
    -- What was drawn for this description only moves the source for the later ones.
    obtain ⟨template, later, hcheck, hlater, rfl⟩ := deriveFrom_cons_eq_ok_iff.1 hderive
    obtain ⟨groups, rfl, hgroups⟩ := ih hlater
    exact ⟨_ :: groups, rfl, .cons (isGroupOf_drawSelections hreplicas hcheck random) hgroups⟩

theorem exists_groups_of_derive_eq_ok {run : String} {w : Workload} {queries : List Query}
    (hderive : derive run w = .ok queries) :
    ∃ groups : List (List Query), queries = groups.flatten ∧
      List.Forall₂ (IsGroupOf w) w.queries groups := by
  obtain ⟨hqueries | hreplicas, hderive⟩ := derive_eq_ok_iff.1 hderive
  · rw [hqueries] at hderive ⊢
    cases hderive
    exact ⟨[], rfl, .nil⟩
  · exact exists_groups_of_deriveFrom_eq_ok hreplicas hderive

theorem length_of_derive {run : String} {w : Workload} {queries : List Query}
    (hderive : derive run w = .ok queries) :
    queries.length = (w.queries.map (·.count.toNat)).sum := by
  obtain ⟨groups, rfl, hgroups⟩ := exists_groups_of_derive_eq_ok hderive
  exact length_flatten_of_groups hgroups

/-- A derived query has the interval of its description, which has passed the check. -/
theorem interval_ne_zero_of_deriveFrom {w : Workload} {descriptions : List QueryDescription}
    {random : ChaCha} {queries : List Query}
    (hderive : deriveFrom w descriptions random = .ok queries) :
    ∀ q ∈ queries, q.interval.isZero = false := by
  induction descriptions generalizing random queries with
  | nil =>
    cases hderive
    exact fun q hq => nomatch hq
  | cons d rest ih =>
    obtain ⟨template, later, hcheck, hlater, rfl⟩ := deriveFrom_cons_eq_ok_iff.1 hderive
    intro q hq
    rcases List.mem_append.1 hq with hq | hq
    · obtain ⟨selection, -, rfl⟩ := List.mem_map.1 hq
      exact (check_eq_ok_iff.1 hcheck).1
    · exact ih hlater q hq

theorem interval_ne_zero_of_derive {run : String} {w : Workload} {queries : List Query}
    (hderive : derive run w = .ok queries) : ∀ q ∈ queries, q.interval.isZero = false :=
  interval_ne_zero_of_deriveFrom (derive_eq_ok_iff.1 hderive).2

/-- Derivation succeeds when every description passes its check. -/
theorem exists_deriveFrom_eq_ok {w : Workload} {descriptions : List QueryDescription}
    (hchecks : ∀ d ∈ descriptions, ∃ template, check w d = .ok template) (random : ChaCha) :
    ∃ queries, deriveFrom w descriptions random = .ok queries := by
  induction descriptions generalizing random with
  | nil => exact ⟨[], rfl⟩
  | cons d rest ih =>
    obtain ⟨⟨template, hcheck⟩, hrest⟩ := List.forall_mem_cons.1 hchecks
    obtain ⟨later, hlater⟩ := ih hrest _
    exact ⟨_, deriveFrom_cons_eq_ok_iff.2 ⟨template, later, hcheck, hlater, rfl⟩⟩

theorem exists_derive_eq_ok {w : Workload} (hreplicas : w.replicas ≠ 0)
    (hchecks : ∀ d ∈ w.queries, ∃ template, check w d = .ok template) (run : String) :
    ∃ queries, derive run w = .ok queries := by
  obtain ⟨queries, hderive⟩ := exists_deriveFrom_eq_ok hchecks (runStream run)
  exact ⟨queries, derive_eq_ok_iff.2 ⟨.inr hreplicas, hderive⟩⟩

end Query
end MetricLoad
