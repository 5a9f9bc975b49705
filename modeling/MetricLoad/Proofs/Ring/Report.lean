import MetricLoad.Proofs.Ring.Lookup
import MetricLoad.Proofs.Workload.Layout
import MetricLoad.Ring.Report

/-!
# Reports foretell the writes

A report is made from a generator of its own, with a seed of its own and after ticks of its own.
None of this matters: the labels of the samples depend on the workload, the replica and the run
alone, a place on the ring depends on the labels alone, and a built ring gives every series the same
number of owners.  So all reports are the same, and they count what every tick of a writing
generator places on the ring; or, where there is no room for the owners of a key, none of them comes
beyond its first series.

Counting is one step for every member of every replication set.  A step keeps the order of the
addresses and the counts positive, adds one to the total and to one address, and leaves the other
addresses as they are.
-/

namespace MetricLoad

/-! ## Labels of a tick -/

/-- The labels of the samples of every tick of a run, in order. -/
def Workload.emittedLabels (w : Workload) (run : String) : List (List Label) :=
  (List.range w.replicas.toNat).flatMap fun replica =>
    (w.series.flatMap (·.labelSets)).map
      (· ++ [⟨replicaLabel, replicaName replica⟩, ⟨runLabel, run⟩])

namespace Generator

theorem map_labels_emit {w : Workload} {g : Generator} (hreplicas : g.replicas = w.replicas.toNat)
    (hg : g.expansion = w.series.map fun s => (s.kind, s.labelSets)) (run : String)
    (now : Instant) : (g.emit run now).map (·.labels) = w.emittedLabels run := by
  have hsets : g.series.flatMap (·.labelSets) = w.series.flatMap (·.labelSets) := by
    have hentries := congrArg (List.flatMap fun e : SeriesKind × List (List Label) => e.2) hg
    simpa [expansion, List.flatMap_map] using hentries
  rw [emit, Workload.emittedLabels, ← hreplicas, ← hsets, List.map_flatMap]
  refine congrArg (List.flatMap · _) (funext fun replica => ?_)
  rw [List.map_flatMap, List.map_flatMap]
  refine congrArg (List.flatMap · _) (funext fun s => ?_)
  rw [emitSeries, List.map_map]
  rfl

/-- Every tick of a run emits samples with the same labels. -/
theorem map_labels_tick (w : Workload) (options : WriteOptions) (seed : UInt64)
    (ticks : List (String × Instant)) (run : String) (now : Instant) :
    ((((ofWorkload w options seed).after ticks).tick run now).1).map (·.labels) =
      w.emittedLabels run := by
  have hcontinues := (continues_advance _).trans (continues_after (ofWorkload w options seed) ticks)
  exact map_labels_emit hcontinues.replicas_eq
    (hcontinues.expansion_eq.trans (expansion_ofWorkload w options seed)) run now

end Generator

namespace Ring

/-! ## Counting addresses -/

/-- The count of an address; zero where it is not listed. -/
def countOf (counts : Counts) (address : String) : Nat :=
  ((counts.find? fun entry => entry.1 == address).map (·.2)).getD 0

/-- Counts that list each address once, in order, and none without series. -/
structure IsListing (counts : Counts) : Prop where
  increasing : counts.Pairwise fun a b => a.1 < b.1
  ne_zero : ∀ entry ∈ counts, entry.2 ≠ 0

theorem countOf_cons (a address : String) (n : Nat) (rest : Counts) :
    countOf ((a, n) :: rest) address = if a = address then n else countOf rest address := by
  unfold countOf
  by_cases h : a = address
  · rw [List.find?_cons_of_pos (by simpa using h), if_pos h]
    rfl
  · rw [List.find?_cons_of_neg (by simpa using h), if_neg h]

/-- Behind a greater address, an address is not listed. -/
theorem countOf_eq_zero {counts : Counts} {address : String}
    (h : ∀ entry ∈ counts, address < entry.1) : countOf counts address = 0 := by
  have hnone : counts.find? (fun entry => entry.1 == address) = none := by
    refine List.find?_eq_none.2 fun entry hentry => ?_
    rw [beq_iff_eq]
    intro heq
    exact absurd (heq ▸ h entry hentry) (String.lt_irrefl _)
  rw [countOf, hnone]
  rfl

theorem mem_countAddress {address : String} {counts : Counts} {entry : String × Nat}
    (h : entry ∈ countAddress address counts) :
    entry.2 ≠ 0 ∧ entry.1 = address ∨ entry ∈ counts := by
  induction counts with
  | nil =>
    cases List.mem_singleton.1 h
    exact Or.inl ⟨Nat.one_ne_zero, rfl⟩
  | cons first rest ih =>
    obtain ⟨a, n⟩ := first
    simp only [countAddress] at h
    split at h
    · rcases List.mem_cons.1 h with rfl | hlater
      · exact Or.inl ⟨Nat.one_ne_zero, rfl⟩
      · exact Or.inr hlater
    · split at h
      · rename_i heq
        rcases List.mem_cons.1 h with rfl | hlater
        · exact Or.inl ⟨Nat.succ_ne_zero n, heq.symm⟩
        · exact Or.inr (List.mem_cons_of_mem _ hlater)
      · rcases List.mem_cons.1 h with rfl | hlater
        · exact Or.inr List.mem_cons_self
        · exact (ih hlater).imp_right (List.mem_cons_of_mem _)

theorem pairwise_countAddress (address : String) {counts : Counts}
    (h : counts.Pairwise fun a b => a.1 < b.1) :
    (countAddress address counts).Pairwise fun a b => a.1 < b.1 := by
  induction counts with
  | nil => exact List.pairwise_singleton _ _
  | cons first rest ih =>
    obtain ⟨a, n⟩ := first
    obtain ⟨hfirst, hrest⟩ := List.pairwise_cons.1 h
    simp only [countAddress]
    split
    · rename_i hlt
      refine List.pairwise_cons.2 ⟨fun entry hentry => ?_, h⟩
      rcases List.mem_cons.1 hentry with rfl | hlater
      · exact hlt
      · exact String.lt_trans hlt (hfirst entry hlater)
    · split
      · exact List.pairwise_cons.2 ⟨hfirst, hrest⟩
      · rename_i hnot hne
        refine List.pairwise_cons.2 ⟨fun entry hentry => ?_, ih hrest⟩
        rcases mem_countAddress hentry with ⟨-, heq⟩ | hlater
        · rw [heq]
          exact Std.lt_of_le_of_ne (String.not_lt.1 hnot) fun h => hne h.symm
        · exact hfirst entry hlater

theorem IsListing.countAddress {counts : Counts} (h : IsListing counts) (address : String) :
    IsListing (countAddress address counts) where
  increasing := pairwise_countAddress address h.increasing
  ne_zero entry hentry := by
    rcases mem_countAddress hentry with ⟨hne, -⟩ | hold
    · exact hne
    · exact h.ne_zero entry hold

theorem total_countAddress (address : String) (counts : Counts) :
    total (countAddress address counts) = total counts + 1 := by
  induction counts with
  | nil => rfl
  | cons first rest ih =>
    obtain ⟨a, n⟩ := first
    simp only [countAddress]
    split
    · simp only [total]
      omega
    · split
      · simp only [total]
        omega
      · simp only [total, ih]
        omega

/-- One more for one address, and the rest as before. -/
theorem countOf_countAddress {counts : Counts} (h : counts.Pairwise fun a b => a.1 < b.1)
    (address other : String) :
    countOf (countAddress address counts) other =
      countOf counts other + if address = other then 1 else 0 := by
  induction counts with
  | nil =>
    rw [countAddress, countOf_cons]
    exact (Nat.zero_add _).symm
  | cons first rest ih =>
    obtain ⟨a, n⟩ := first
    obtain ⟨hfirst, hrest⟩ := List.pairwise_cons.1 h
    simp only [countAddress]
    split
    · -- The address was not listed: all that is listed is greater.
      rename_i hlt
      rw [countOf_cons]
      by_cases hother : address = other
      · subst hother
        have hzero : countOf ((a, n) :: rest) address = 0 := by
          refine countOf_eq_zero fun entry hentry => ?_
          rcases List.mem_cons.1 hentry with rfl | hlater
          · exact hlt
          · exact String.lt_trans hlt (hfirst entry hlater)
        rw [if_pos rfl, if_pos rfl, hzero]
      · rw [if_neg hother, if_neg hother, Nat.add_zero]
    · split
      · rename_i heq
        rw [countOf_cons, countOf_cons, heq]
        by_cases hother : a = other
        · rw [if_pos hother, if_pos hother, if_pos hother]
        · rw [if_neg hother, if_neg hother, if_neg hother, Nat.add_zero]
      · rename_i hne
        rw [countOf_cons, countOf_cons, ih hrest]
        by_cases hother : a = other
        · rw [if_pos hother, if_pos hother, if_neg (hother ▸ hne), Nat.add_zero]
        · rw [if_neg hother, if_neg hother]

/-- The counts of some addresses, each as often as it occurs. -/
def countAll (addresses : List String) (counts : Counts) : Counts :=
  addresses.foldl (fun counts address => countAddress address counts) counts

theorem countAll_append (first second : List String) (counts : Counts) :
    countAll (first ++ second) counts = countAll second (countAll first counts) :=
  List.foldl_append

theorem IsListing.countAll {counts : Counts} (h : IsListing counts) (addresses : List String) :
    IsListing (countAll addresses counts) := by
  induction addresses generalizing counts with
  | nil => exact h
  | cons address rest ih => exact ih (h.countAddress address)

theorem total_countAll (addresses : List String) (counts : Counts) :
    total (countAll addresses counts) = total counts + addresses.length := by
  induction addresses generalizing counts with
  | nil => rfl
  | cons address rest ih =>
    rw [countAll, List.foldl_cons, ← countAll, ih, total_countAddress, List.length_cons]
    omega

theorem countOf_countAll {counts : Counts} (h : IsListing counts) (addresses : List String)
    (other : String) :
    countOf (countAll addresses counts) other = countOf counts other + addresses.count other := by
  -- The order of the addresses is what makes each step add to a single entry.
  induction addresses generalizing counts with
  | nil => rfl
  | cons address rest ih =>
    rw [countAll, List.foldl_cons, ← countAll, ih (h.countAddress address),
      countOf_countAddress h.increasing, List.count_cons]
    simp only [beq_iff_eq]
    omega

/-! ## Places on the ring -/

/-- The addresses of the owners of a series with some labels, the primary owner first; none where
the ring gives no answer. -/
def replicationSet (r : Ring) (tenant : String) (labels : List Label) : List String :=
  (r.get (sortedShardToken tenant labels)).toOption.getD []

/-- The places of an address in the replication sets of some series: a series and a position in its
set. -/
def placesOf (r : Ring) (tenant address : String) (series : List TimeSeries) :
    List (TimeSeries × Nat) :=
  series.flatMap fun s =>
    ((replicationSet r tenant s.labels).zipIdx.filter fun owner => owner.1 == address).map
      fun owner => (s, owner.2)

theorem length_placesOf (r : Ring) (tenant address : String) (series : List TimeSeries) :
    (placesOf r tenant address series).length =
      (series.flatMap fun s => replicationSet r tenant s.labels).count address := by
  -- Numbering the owners does not change how often one of them occurs.
  have hcount (owners : List String) :
      (owners.zipIdx.filter fun owner => owner.1 == address).length = owners.count address := by
    calc (owners.zipIdx.filter fun owner => owner.1 == address).length
        = owners.zipIdx.countP ((· == address) ∘ Prod.fst) := List.countP_eq_length_filter.symm
      _ = (owners.zipIdx.map Prod.fst).countP (· == address) := List.countP_map.symm
      _ = owners.count address := by rw [List.zipIdx_map_fst, List.count]
  rw [placesOf, List.length_flatMap, List.count_flatMap]
  refine congrArg List.sum (List.map_congr_left fun s _ => ?_)
  rw [List.length_map, hcount]
  rfl

variable {tokenCount : Nat} {instances : List Instance} {r : Ring}

theorem IsRingOf.length_owners (hr : r.IsRingOf tokenCount instances) (key : UInt32) :
    (r.owners key).length =
      min r.replicationFactor (owningPositions tokenCount instances).length := by
  rw [owners_eq_take, List.length_take, hr.length_eraseDups_owners key]

theorem IsRingOf.replicationSet_eq (hr : r.IsRingOf tokenCount instances)
    (hroom : r.replicationFactor ≤ ownerCapacity) (tenant : String) (labels : List Label) :
    replicationSet r tenant labels =
      (r.owners (sortedShardToken tenant labels)).map (addressAt instances) := by
  rw [replicationSet, hr.get_eq_ok hroom]
  rfl

theorem IsRingOf.get_eq_replicationSet (hr : r.IsRingOf tokenCount instances)
    (hroom : r.replicationFactor ≤ ownerCapacity) (tenant : String) (labels : List Label) :
    r.get (sortedShardToken tenant labels) = .ok (replicationSet r tenant labels) := by
  rw [hr.replicationSet_eq hroom, hr.get_eq_ok hroom]

theorem IsRingOf.length_replicationSet (hr : r.IsRingOf tokenCount instances)
    (hroom : r.replicationFactor ≤ ownerCapacity) (tenant : String) (labels : List Label) :
    (replicationSet r tenant labels).length =
      min r.replicationFactor (owningPositions tokenCount instances).length := by
  rw [hr.replicationSet_eq hroom, List.length_map, hr.length_owners]

/-- A distribution counts the members of all replication sets. -/
theorem IsRingOf.foldlM_countSeries (hr : r.IsRingOf tokenCount instances)
    (hroom : r.replicationFactor ≤ ownerCapacity) (tenant : String) (series : List TimeSeries)
    (counts : Counts) :
    series.foldlM (countSeries r tenant) counts =
      .ok (countAll (series.flatMap fun s => replicationSet r tenant s.labels) counts) := by
  induction series generalizing counts with
  | nil => rfl
  | cons s rest ih =>
    -- No series ends the count, since the ring has an answer for every one.
    rw [List.foldlM_cons, countSeries, hr.get_eq_replicationSet hroom, List.flatMap_cons,
      countAll_append]
    exact ih _

/-- Without room for owners, the first series ends the count. -/
theorem IsRingOf.distribution_eq_capacityOverflow (hr : r.IsRingOf tokenCount instances)
    (hfull : ownerCapacity < r.replicationFactor) (tenant : String) {series : List TimeSeries}
    (hseries : series ≠ []) : distribution r tenant series = .error .capacityOverflow := by
  obtain ⟨s, rest, rfl⟩ := List.exists_cons_of_ne_nil hseries
  rw [distribution, List.foldlM_cons, countSeries, hr.get_eq_capacityOverflow hfull]
  rfl

/-- The counts that every report of a run gives. -/
def expectedCounts (r : Ring) (tenant : String) (w : Workload) (run : String) : Counts :=
  countAll ((w.emittedLabels run).flatMap (replicationSet r tenant)) []

theorem IsRingOf.distribution_eq_ok (hr : r.IsRingOf tokenCount instances)
    (hroom : r.replicationFactor ≤ ownerCapacity) (tenant : String) {w : Workload} {run : String}
    {series : List TimeSeries} (hlabels : series.map (·.labels) = w.emittedLabels run) :
    distribution r tenant series = .ok (expectedCounts r tenant w run) := by
  rw [distribution, hr.foldlM_countSeries hroom, expectedCounts, ← hlabels, List.flatMap_map]

theorem isListing_expectedCounts (r : Ring) (tenant : String) (w : Workload) (run : String) :
    IsListing (expectedCounts r tenant w run) :=
  IsListing.countAll ⟨List.Pairwise.nil, fun _ hentry => nomatch hentry⟩ _

theorem countOf_expectedCounts {tenant : String} {w : Workload} {run : String}
    {series : List TimeSeries} (hlabels : series.map (·.labels) = w.emittedLabels run)
    (address : String) :
    countOf (expectedCounts r tenant w run) address =
      (placesOf r tenant address series).length := by
  have hempty : IsListing [] := ⟨List.Pairwise.nil, fun _ hentry => nomatch hentry⟩
  rw [expectedCounts, countOf_countAll hempty, length_placesOf, ← hlabels, List.flatMap_map]
  exact Nat.zero_add _

/-- Every series adds the same number of owners. -/
theorem IsRingOf.total_expectedCounts (hr : r.IsRingOf tokenCount instances)
    (hroom : r.replicationFactor ≤ ownerCapacity) (tenant : String) (w : Workload) (run : String) :
    total (expectedCounts r tenant w run) =
      (w.emittedLabels run).length *
        min r.replicationFactor (owningPositions tokenCount instances).length := by
  have hlengths :
      (w.emittedLabels run).map (fun labels => (replicationSet r tenant labels).length) =
        (w.emittedLabels run).map fun _ =>
          min r.replicationFactor (owningPositions tokenCount instances).length :=
    List.map_congr_left fun labels _ => hr.length_replicationSet hroom tenant labels
  rw [expectedCounts, total_countAll, List.length_flatMap, hlengths, List.map_const',
    List.sum_replicate_nat]
  exact Nat.zero_add _

theorem length_emittedLabels (w : Workload) (run : String) (options : WriteOptions)
    (seed : UInt64) :
    (w.emittedLabels run).length =
      w.replicas.toNat * (Generator.ofWorkload w options seed).totalSeries := by
  have hlabels := Generator.map_labels_emit (w := w) rfl
    (Generator.expansion_ofWorkload w options seed) run .epoch
  rw [← hlabels, List.length_map, Generator.length_emit]
  rfl

/-! ## Reports -/

/-- The checker after reports at some times. -/
def Checker.after (c : Checker) (times : List Instant) : Checker :=
  times.foldl (fun c now => (c.check now).2) c

/-- Reports move the generator by one tick each and change nothing else. -/
theorem Checker.after_eq (c : Checker) (times : List Instant) :
    c.after times =
      { c with generator := c.generator.after (times.map fun now => (c.run, now)) } := by
  induction times generalizing c with
  | nil => rfl
  | cons now later ih => exact ih (c.check now).2

/-- All reports over a ring that has been built are the same, whatever their options, seeds, times
and earlier reports.  They list addresses once, in order and with a positive count, which is the
number of places that the address has among the series of any tick of the run.  The counts sum up to
the same number of owners for every series and replica.  Only where the replication factor is beyond
all capacity is there no report, unless it is the one of a workload without series. -/
theorem reports_count_written_series {replicationFactor : Nat}
    (hbuild : build instances replicationFactor tokenCount = .ok r) (w : Workload)
    (run tenant : String) :
    (replicationFactor ≤ ownerCapacity →
      ∃ counts : Counts,
        (∀ options seed times now,
          ((Checker.after ⟨r, .ofWorkload w options seed, run, tenant⟩ times).check now).1 =
            .ok counts) ∧
        counts.Pairwise (fun a b => a.1 < b.1) ∧
        (∀ entry ∈ counts, entry.2 ≠ 0) ∧
        (∀ labels, r.get (sortedShardToken tenant labels) =
          .ok (replicationSet r tenant labels)) ∧
        (∀ options seed ticks now address,
          countOf counts address = (placesOf r tenant address
            (((Generator.ofWorkload w options seed).after ticks).tick run now).1).length) ∧
        ∀ options seed, total counts =
          w.replicas.toNat * (Generator.ofWorkload w options seed).totalSeries *
            min replicationFactor (owningPositions tokenCount instances).length) ∧
    (ownerCapacity < replicationFactor →
      ∀ options seed times now,
        ((Checker.after ⟨r, .ofWorkload w options seed, run, tenant⟩ times).check now).1 =
          if w.emittedLabels run = [] then .ok [] else .error .capacityOverflow) := by
  have hr := isRingOf_build hbuild
  rw [← replicationFactor_build hbuild]
  refine ⟨fun hroom => ?_, fun hfull options seed times now => ?_⟩
  · have hlisting := isListing_expectedCounts r tenant w run
    refine ⟨expectedCounts r tenant w run, ?_, hlisting.increasing, hlisting.ne_zero,
      hr.get_eq_replicationSet hroom tenant, ?_, ?_⟩
    · intro options seed times now
      rw [Checker.after_eq]
      exact hr.distribution_eq_ok hroom tenant (Generator.map_labels_tick w options seed _ run now)
    · intro options seed ticks now address
      exact countOf_expectedCounts (Generator.map_labels_tick w options seed ticks run now) address
    · intro options seed
      rw [hr.total_expectedCounts hroom, length_emittedLabels w run options seed]
  · rw [Checker.after_eq]
    have hlabels := Generator.map_labels_tick w options seed (times.map fun now => (run, now))
      run now
    by_cases hnone : w.emittedLabels run = []
    · rw [if_pos hnone]
      rw [hnone, List.map_eq_nil_iff] at hlabels
      exact congrArg (distribution r tenant) hlabels
    · rw [if_neg hnone]
      rw [← hlabels, List.map_eq_nil_iff] at hnone
      exact hr.distribution_eq_capacityOverflow hfull tenant hnone

/-- Three series of two replicas, with two owners each although three are asked for. -/
theorem reports_count_written_series_sharing :
    ∃ r counts, build sharingInstances 3 0 = .ok r ∧
      ((Checker.after ⟨r, .ofWorkload Generator.unevenWorkload .standard 7, "run", "fake"⟩
        [.epoch]).check ⟨15000000000⟩).1 = .ok counts ∧
      total counts = 12 := by
  have hbuild : ∃ r, build sharingInstances 3 0 = .ok r := ⟨_, rfl⟩
  obtain ⟨r, hr⟩ := hbuild
  have hroom : 3 ≤ ownerCapacity := by decide
  obtain ⟨counts, hreports, -, -, -, -, htotal⟩ :=
    (reports_count_written_series hr Generator.unevenWorkload "run" "fake").1 hroom
  have howning : owningPositions 0 sharingInstances = [0, 1] := by cbv
  refine ⟨r, counts, hr, hreports .standard 7 [.epoch] ⟨15000000000⟩, ?_⟩
  rw [htotal .standard 7, howning]
  rfl

/-- A workload of a single series. -/
def loneWorkload : Workload :=
  ⟨1, [⟨"up", .gaugeZero, .empty, []⟩], [], {}⟩

/-- A single series and a single owner for it, of whom `2 ^ 60` are asked for: the report does not
come to its end. -/
theorem report_beyond_capacity :
    ∃ r, build [⟨"a", [1]⟩] 1152921504606846976 0 = .ok r ∧
      ((⟨r, .ofWorkload loneWorkload .standard 0, "run", "fake"⟩ : Checker).check .epoch).1 =
        .error .capacityOverflow := by
  have hbuild : ∃ r, build [⟨"a", [1]⟩] 1152921504606846976 0 = .ok r := ⟨_, rfl⟩
  obtain ⟨r, hr⟩ := hbuild
  have hfull : ownerCapacity < r.replicationFactor := by
    rw [replicationFactor_build hr]
    decide
  exact ⟨r, hr, (isRingOf_build hr).distribution_eq_capacityOverflow hfull "fake"
    (List.cons_ne_nil _ _)⟩

end Ring
end MetricLoad
