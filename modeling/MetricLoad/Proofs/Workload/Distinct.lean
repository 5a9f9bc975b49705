import MetricLoad.Proofs.Workload.Layout
import Mathlib

/-!
# Emitted series do not collide

All series that a tick emits for one series of a description have different labels.  The label
sets of a series differ because an index below the number of combinations can be read back from its
digits, and a digit from the label that it makes.  The replicas of a label set differ in their
names, which are numbers with zeros in front of them.  Labels begin with the name of the metric, so
series of different names never have the same labels either.

What a tick emits for a series of the description is told by its places: `Workload.share` collects
them, one run of label sets for every replica.
-/

namespace MetricLoad

/-! ## Numbers in names -/

/-- Zeros in front of some digits leave their number as it is. -/
theorem ofDigitChars_replicate_zero (count : Nat) (digits : List Char) :
    Nat.ofDigitChars 10 (List.replicate count '0' ++ digits) 0 = Nat.ofDigitChars 10 digits 0 := by
  induction count with
  | zero => rfl
  | succ count ih =>
    rw [List.replicate_succ, List.cons_append, Nat.ofDigitChars_cons]
    exact ih

theorem Decimal.ofDigitChars_padded (width n : Nat) :
    Nat.ofDigitChars 10 (padded width n).toList 0 = n := by
  rw [padded, String.toList_append, String.toList_ofList, ofDigitChars_replicate_zero]
  simp

theorem replicaName_injective : Function.Injective replicaName := by
  intro m n h
  have hpadded : Decimal.padded 5 m = Decimal.padded 5 n := (String.append_right_inj _).1 h
  -- However many zeros there are, both names spell the same number.
  rw [← Decimal.ofDigitChars_padded 5 m, hpadded, Decimal.ofDigitChars_padded]

/-- The stem may end in digits or dashes: it is the same in both labels. -/
theorem VaryingLabel.label_injective (v : VaryingLabel) : Function.Injective v.label := by
  intro i j h
  have hvalue : v.valueStem ++ "-" ++ toString i = v.valueStem ++ "-" ++ toString j :=
    congrArg Label.value h
  exact Nat.repr_inj.1 ((String.append_right_inj _).1 hvalue)

/-! ## Label sets of one series -/

namespace SeriesTemplate

/-- Below the number of combinations, the labels of an index determine it. -/
theorem digits_injective {labels : List VaryingLabel} {i j : Nat}
    (hi : i < (labels.map (·.variants.toNat)).prod)
    (hj : j < (labels.map (·.variants.toNat)).prod) (h : digits labels i = digits labels j) :
    i = j := by
  induction labels generalizing i j with
  | nil =>
    rw [List.map_nil, List.prod_nil] at hi hj
    omega
  | cons v rest ih =>
    rw [List.map_cons, List.prod_cons] at hi hj
    obtain ⟨hdigit, hrest⟩ := List.cons.inj h
    have hmod : i % v.variants.toNat = j % v.variants.toNat := v.label_injective hdigit
    have hdiv : i / v.variants.toNat = j / v.variants.toNat :=
      ih (Nat.div_lt_of_lt_mul hi) (Nat.div_lt_of_lt_mul hj) hrest
    calc i = v.variants.toNat * (i / v.variants.toNat) + i % v.variants.toNat :=
          (Nat.div_add_mod i _).symm
      _ = v.variants.toNat * (j / v.variants.toNat) + j % v.variants.toNat := by rw [hdiv, hmod]
      _ = j := Nat.div_add_mod j _

theorem labelSets_eq_map_range (s : SeriesTemplate) :
    s.labelSets = (List.range s.combinations).map fun index =>
      s.baseLabels ++ digits s.varyingLabels index := by
  refine List.ext_getElem? fun index => ?_
  rw [List.getElem?_map]
  by_cases hindex : index < s.combinations
  · rw [s.getElem?_labelSets hindex, List.getElem?_range hindex, Option.map_some]
  · rw [List.getElem?_eq_none (by rw [s.length_labelSets]; omega),
      List.getElem?_eq_none (by rw [List.length_range]; omega), Option.map_none]

theorem nodup_labelSets (s : SeriesTemplate) : s.labelSets.Nodup := by
  rw [s.labelSets_eq_map_range]
  refine List.Nodup.map_on (fun i hi j hj h => ?_) List.nodup_range
  exact digits_injective (List.mem_range.1 hi) (List.mem_range.1 hj) (List.append_cancel_left h)

theorem exists_cons_of_mem_labelSets {s : SeriesTemplate} {labels : List Label}
    (h : labels ∈ s.labelSets) : ∃ rest, labels = ⟨nameLabel, s.name⟩ :: rest := by
  obtain ⟨index, -, rfl⟩ := exists_digits_of_mem_labelSets h
  exact ⟨_, rfl⟩

end SeriesTemplate

/-! ## Shares of a tick -/

namespace Workload

/-- The number of label sets of all series. -/
def totalSets (w : Workload) : Nat :=
  w.setsBefore w.series.length

/-- What stands at the places of one series for one replica. -/
def slice (w : Workload) (emitted : List TimeSeries) (index replica : Nat) : List TimeSeries :=
  emitted.extract (replica * w.totalSets + w.setsBefore index)
    (replica * w.totalSets + w.setsBefore (index + 1))

/-- What a tick emits for one series, for all replicas. -/
def share (w : Workload) (emitted : List TimeSeries) (index : Nat) : List TimeSeries :=
  (List.range w.replicas.toNat).flatMap (w.slice emitted index)

end Workload

theorem extract_append_extract {α : Type} (l : List α) {a b c : Nat} (hab : a ≤ b) (hbc : b ≤ c) :
    l.extract a b ++ l.extract b c = l.extract a c := by
  have hsize : c - a = (b - a) + (c - b) := by omega
  have hstart : a + (b - a) = b := by omega
  rw [List.extract_eq_take_drop, List.extract_eq_take_drop, List.extract_eq_take_drop, hsize,
    List.take_add, List.drop_drop, hstart]

/-- Slices that begin where the one before them ends make up everything between the outer ends. -/
theorem flatMap_extract {α : Type} (l : List α) {bound : Nat → Nat}
    (hbound : ∀ i, bound i ≤ bound (i + 1)) (count : Nat) :
    ((List.range count).flatMap fun i => l.extract (bound i) (bound (i + 1))) =
      l.extract (bound 0) (bound count) := by
  have hmono : Monotone bound := monotone_nat_of_le_succ hbound
  induction count with
  | zero => simp
  | succ count ih =>
    rw [List.range_succ, List.flatMap_append, ih, List.flatMap_singleton,
      extract_append_extract l (hmono (Nat.zero_le count)) (hbound count)]

/-- Two nested enumerations may change places. -/
theorem flatMap_flatMap_perm {α β γ : Type} (outer : List α) (inner : List β)
    (f : α → β → List γ) :
    (outer.flatMap fun a => inner.flatMap (f a)).Perm
      (inner.flatMap fun b => outer.flatMap fun a => f a b) := by
  induction outer with
  | nil => simp
  | cons a rest ih =>
    simp only [List.flatMap_cons]
    exact (ih.append_left _).trans (List.flatMap_append_perm inner (f a) _)

namespace Workload

theorem setsBefore_le_succ (w : Workload) (index : Nat) :
    w.setsBefore index ≤ w.setsBefore (index + 1) := by
  rw [setsBefore, setsBefore, List.take_add_one, List.map_append, List.sum_append]
  exact Nat.le_add_right _ _

theorem setsBefore_succ {w : Workload} {index : Nat} {s : SeriesTemplate}
    (hs : w.series[index]? = some s) :
    w.setsBefore (index + 1) = w.setsBefore index + s.labelSets.length := by
  rw [setsBefore, setsBefore, List.take_add_one, hs, List.map_append, List.sum_append]
  simp

theorem totalSets_eq_sum (w : Workload) :
    w.totalSets = (w.series.map (·.labelSets.length)).sum := by
  rw [totalSets, setsBefore, List.take_length]

/-- The slices of one replica are its part of the tick. -/
theorem flatMap_slice (w : Workload) (emitted : List TimeSeries) (replica : Nat) :
    ((List.range w.series.length).flatMap fun index => w.slice emitted index replica) =
      emitted.extract (replica * w.totalSets) ((replica + 1) * w.totalSets) := by
  have hbound : ∀ index, replica * w.totalSets + w.setsBefore index ≤
      replica * w.totalSets + w.setsBefore (index + 1) :=
    fun index => Nat.add_le_add_left (w.setsBefore_le_succ index) _
  have hlast : replica * w.totalSets + w.setsBefore w.series.length =
      (replica + 1) * w.totalSets := by
    rw [Nat.succ_mul]
    rfl
  refine (flatMap_extract emitted hbound w.series.length).trans ?_
  rw [hlast]
  rfl

/-- Every series that is emitted belongs to the share of exactly one series of the description. -/
theorem perm_shares {w : Workload} {emitted : List TimeSeries}
    (hlength : emitted.length = w.replicas.toNat * w.totalSets) :
    emitted.Perm ((List.range w.series.length).flatMap (w.share emitted)) := by
  have hbound : ∀ replica, replica * w.totalSets ≤ (replica + 1) * w.totalSets :=
    fun replica => Nat.mul_le_mul_right _ (Nat.le_succ replica)
  have hreplicas : ((List.range w.replicas.toNat).flatMap fun replica =>
      (List.range w.series.length).flatMap fun index => w.slice emitted index replica) =
      emitted := by
    simp only [flatMap_slice]
    rw [flatMap_extract emitted hbound, ← hlength, Nat.zero_mul, List.extract_eq_take_drop,
      List.drop_zero, Nat.sub_zero, List.take_length]
  have hswap := flatMap_flatMap_perm (List.range w.replicas.toNat) (List.range w.series.length)
    fun replica index => w.slice emitted index replica
  rw [hreplicas] at hswap
  exact hswap

end Workload

namespace Generator

/-- A slice holds one replica of all label sets of its series, in order. -/
theorem map_labels_slice_emit {w : Workload} {g : Generator}
    (hreplicas : g.replicas = w.replicas.toNat)
    (hg : g.expansion = w.series.map fun s => (s.kind, s.labelSets)) {index replica : Nat}
    {s : SeriesTemplate} (hs : w.series[index]? = some s) (hreplica : replica < w.replicas.toNat)
    (run : String) (now : Instant) :
    (w.slice (g.emit run now) index replica).map (·.labels) =
      s.labelSets.map (· ++ [⟨replicaLabel, replicaName replica⟩, ⟨runLabel, run⟩]) := by
  obtain ⟨expanded, hexpanded, hsets⟩ := exists_getElem?_series hg hs
  have htotal : g.totalSeries = w.totalSets := by
    rw [totalSeries_eq_sum, w.totalSets_eq_sum, map_labelSets_eq hg]
  refine List.ext_getElem? fun set => ?_
  rw [List.getElem?_map, List.getElem?_map, Workload.slice, List.extract_eq_take_drop,
    List.getElem?_take, List.getElem?_drop, Nat.add_assoc, ← htotal]
  by_cases hset : set < s.labelSets.length
  · have hset' : expanded.labelSets[set]? = some s.labelSets[set] := by
      rw [hsets, List.getElem?_eq_getElem hset]
    have hplace := setsBefore_add_lt hexpanded (List.getElem?_eq_some_iff.1 hset').1
    rw [if_pos (by rw [Workload.setsBefore_succ hs]; omega), ← setsBefore_eq hg,
      getElem?_emit (hreplicas ▸ hreplica) hplace, getElem?_emitReplica hexpanded hset',
      List.getElem?_eq_getElem hset]
    rfl
  · rw [if_neg (by rw [Workload.setsBefore_succ hs]; omega), List.getElem?_eq_none (by omega)]
    rfl

/-! ## Labels of a share -/

theorem map_labels_share {w : Workload} {g : Generator} (hreplicas : g.replicas = w.replicas.toNat)
    (hg : g.expansion = w.series.map fun s => (s.kind, s.labelSets)) {index : Nat}
    {s : SeriesTemplate} (hs : w.series[index]? = some s) (run : String) (now : Instant) :
    (w.share (g.emit run now) index).map (·.labels) =
      (List.range w.replicas.toNat).flatMap fun replica =>
        s.labelSets.map (· ++ [⟨replicaLabel, replicaName replica⟩, ⟨runLabel, run⟩]) := by
  rw [Workload.share, List.map_flatMap]
  exact List.flatMap_congr fun replica hreplica =>
    map_labels_slice_emit hreplicas hg hs (List.mem_range.1 hreplica) run now

/-- Neither two label sets of a series nor two replicas of one end up with the same labels. -/
theorem nodup_flatMap_labels (s : SeriesTemplate) (replicas : Nat) (run : String) :
    ((List.range replicas).flatMap fun replica =>
      s.labelSets.map (· ++ [⟨replicaLabel, replicaName replica⟩, ⟨runLabel, run⟩])).Nodup := by
  refine List.nodup_flatMap.2 ⟨fun replica _ => ?_, List.Pairwise.imp (fun hne => ?_)
    List.nodup_range⟩
  · exact s.nodup_labelSets.map (List.append_left_injective _)
  · -- The last two labels hold the replica, whatever the label sets are.
    intro labels hlabels hother
    obtain ⟨set, -, rfl⟩ := List.mem_map.1 hlabels
    obtain ⟨other, -, heq⟩ := List.mem_map.1 hother
    obtain ⟨-, hlast⟩ := List.append_inj' heq (by simp only [List.length_cons])
    obtain ⟨hreplica, -⟩ := List.cons.inj hlast
    exact hne (replicaName_injective (congrArg Label.value hreplica.symm))

theorem exists_cons_of_mem_share {w : Workload} {g : Generator}
    (hreplicas : g.replicas = w.replicas.toNat)
    (hg : g.expansion = w.series.map fun s => (s.kind, s.labelSets)) {index : Nat}
    {s : SeriesTemplate} (hs : w.series[index]? = some s) {run : String} {now : Instant}
    {emitted : TimeSeries} (h : emitted ∈ w.share (g.emit run now) index) :
    ∃ rest, emitted.labels = ⟨nameLabel, s.name⟩ :: rest := by
  have hlabels := List.mem_map_of_mem (f := (·.labels)) h
  rw [map_labels_share hreplicas hg hs] at hlabels
  obtain ⟨replica, -, hreplica⟩ := List.mem_flatMap.1 hlabels
  obtain ⟨set, hset, heq⟩ := List.mem_map.1 hreplica
  obtain ⟨rest, rfl⟩ := SeriesTemplate.exists_cons_of_mem_labelSets hset
  exact ⟨_, heq.symm⟩

/-- What a tick emits is shared out among the series of the description.  The share of a series
holds one time series for every replica and label set, all with different labels, and it has labels
in common with the share of another series only if the two have the same name. -/
theorem emitted_series_do_not_collide (w : Workload) (options : WriteOptions) (seed : UInt64)
    (ticks : List (String × Instant)) (run : String) (now : Instant) :
    let emitted := (((ofWorkload w options seed).after ticks).tick run now).1
    emitted.Perm ((List.range w.series.length).flatMap (w.share emitted)) ∧
      ∀ index s, w.series[index]? = some s →
        (w.share emitted index).length = w.replicas.toNat * s.labelSets.length ∧
        ((w.share emitted index).map (·.labels)).Nodup ∧
        ∀ other t, w.series[other]? = some t →
          ∀ x ∈ w.share emitted index, ∀ y ∈ w.share emitted other,
            x.labels = y.labels → s.name = t.name := by
  intro emitted
  -- The samples are emitted from the generator whose values have already moved.
  have hcontinues := (continues_advance _).trans (continues_after (ofWorkload w options seed) ticks)
  have hreplicas : ((ofWorkload w options seed).after ticks).advance.replicas =
      w.replicas.toNat := hcontinues.replicas_eq
  have hg : ((ofWorkload w options seed).after ticks).advance.expansion =
      w.series.map fun s => (s.kind, s.labelSets) :=
    hcontinues.expansion_eq.trans (expansion_ofWorkload w options seed)
  have hlength : emitted.length = w.replicas.toNat * w.totalSets := by
    refine (length_emit _ run now).trans ?_
    rw [totalSeries_eq_sum, map_labelSets_eq hg, hreplicas, w.totalSets_eq_sum]
  refine ⟨Workload.perm_shares hlength, fun index s hs => ?_⟩
  have hlabels : (w.share emitted index).map (·.labels) =
      (List.range w.replicas.toNat).flatMap fun replica =>
        s.labelSets.map (· ++ [⟨replicaLabel, replicaName replica⟩, ⟨runLabel, run⟩]) :=
    map_labels_share hreplicas hg hs run now
  refine ⟨?_, ?_, ?_⟩
  · rw [← List.length_map (·.labels), hlabels,
      length_flatMap_range_of_length (fun _ => List.length_map _), Nat.mul_comm]
  · rw [hlabels]
    exact nodup_flatMap_labels s _ run
  · intro other t ht x hx y hy heq
    obtain ⟨_, hfirst⟩ := exists_cons_of_mem_share hreplicas hg hs hx
    obtain ⟨_, hsecond⟩ := exists_cons_of_mem_share hreplicas hg ht hy
    rw [hfirst, hsecond] at heq
    exact congrArg Label.value (List.cons.inj heq).1

/-- A label that occurs twice, with stems that end in a digit and in a dash, and a second series of
the same name. -/
def entangledWorkload : Workload where
  replicas := 2
  series := [⟨"cpu", .counterOne, .empty, [⟨"core", "c-1", 3⟩, ⟨"core", "c-", 2⟩]⟩,
    ⟨"cpu", .gaugeZero, .empty, [⟨"core", "c-1", 1⟩, ⟨"core", "c-", 1⟩]⟩]
  queries := []
  write := {}

theorem emitted_series_do_not_collide_entangled :
    let emitted := ((ofWorkload entangledWorkload ⟨.ofSeconds 1, .ofSeconds 1, 1⟩ 7).tick
      "run" .epoch).1
    emitted.length = 14 ∧ (entangledWorkload.share emitted 0).length = 12 ∧
      ((entangledWorkload.share emitted 0).map (·.labels)).Nodup := by
  intro emitted
  obtain ⟨hperm, hshares⟩ := emitted_series_do_not_collide entangledWorkload
    ⟨.ofSeconds 1, .ofSeconds 1, 1⟩ 7 [] "run" .epoch
  obtain ⟨hfirst, hnodup, -⟩ := hshares 0 _ rfl
  obtain ⟨hsecond, -⟩ := hshares 1 _ rfl
  refine ⟨?_, hfirst, hnodup⟩
  have hlength := hperm.length_eq
  rw [List.length_flatMap] at hlength
  exact hlength.trans (congrArg₂ (· + ·) hfirst (congrArg (· + 0) hsecond))

end Generator
end MetricLoad
