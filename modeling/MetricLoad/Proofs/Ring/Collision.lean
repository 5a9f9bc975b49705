import MetricLoad.Proofs.Ring.Hash
import Mathlib.Data.List.Basic
import Mathlib.Data.List.Perm.Basic

/-!
# Near-identical series have different tokens

Sorting looks at the names of labels only.  If one value is left open, the labels can be sorted all
the same, and the open place ends up somewhere among them whatever value is filled in.  Two series
that differ in one byte of one value are therefore hashed over lists that differ in the same byte of
the same value, sorted or not, and adding the bytes that the lists share loses nothing.

In the same way the labels cannot make up for different tenants: tokens of two tenants agree just
when their own hashes do.
-/

namespace MetricLoad.Ring

open MetricLoad.Text

/-- The label at a place; at the open place, the one with the given name and value. -/
def fillPlace (name value : String) : Option Label → Label
  | none => ⟨name, value⟩
  | some l => l

theorem name_fillPlace (name value value' : String) (place : Option Label) :
    (fillPlace name value place).name = (fillPlace name value' place).name := by
  cases place <;> rfl

/-- Where a label goes when the labels are sorted does not depend on its value. -/
theorem exists_sortByName_eq (name : String) (before after : List Label) :
    ∃ front back, ∀ value, sortByName (before ++ ⟨name, value⟩ :: after) =
      front ++ ⟨name, value⟩ :: back := by
  let places : List (Option Label) := before.map some ++ none :: after.map some
  let sorted := places.mergeSort fun a b =>
    bytesLe (fillPlace name "" a).name (fillPlace name "" b).name
  have hfilled (value : String) : sortByName (before ++ ⟨name, value⟩ :: after) =
      sorted.map (fillPlace name value) := by
    have hplaces : before ++ ⟨name, value⟩ :: after = places.map (fillPlace name value) := by
      simp [places, Function.comp_def, fillPlace]
    rw [hplaces]
    refine (List.map_mergeSort fun a _ b _ => ?_).symm
    rw [name_fillPlace name "" value a, name_fillPlace name "" value b]
  have hperm : sorted.Perm places := List.mergeSort_perm _ _
  have hopen : none ∈ sorted := hperm.mem_iff.2 (by simp [places])
  obtain ⟨front, back, hsorted⟩ := List.append_of_mem hopen
  -- There is one open place, so the labels around it are there whatever is filled in.
  have haround : (front ++ back).Perm (before.map some ++ after.map some) := by
    rw [hsorted] at hperm
    exact (List.perm_middle.symm.trans (hperm.trans List.perm_middle)).cons_inv
  have hgiven (value : String) (place : Option Label) (hplace : place ∈ front ++ back) :
      fillPlace name value place = fillPlace name "" place := by
    have hmem := haround.mem_iff.1 hplace
    cases place with
    | none => simp at hmem
    | some l => rfl
  refine ⟨front.map (fillPlace name ""), back.map (fillPlace name ""), fun value => ?_⟩
  rw [hfilled, hsorted, List.map_append, List.map_cons]
  congr 1
  · exact List.map_congr_left fun place hplace => hgiven value place (by simp [hplace])
  · congr 1
    exact List.map_congr_left fun place hplace => hgiven value place (by simp [hplace])

/-- Neither tenants with different hashes nor series that differ in one byte of one value share a
token, in whatever order the labels are hashed.  Values that differ in a single digit are a case of
the latter. -/
theorem near_identical_series_differ :
    (∀ s : String, Function.Injective (fnvAdd · s)) ∧
    (∀ (tenant other : String) (labels : List Label),
      (shardToken tenant labels = shardToken other labels ↔
        fnv1a (bytes tenant) = fnv1a (bytes other)) ∧
      (sortedShardToken tenant labels = sortedShardToken other labels ↔
        fnv1a (bytes tenant) = fnv1a (bytes other))) ∧
    (∀ (tenant name value value' : String) (before after : List Label),
      DifferInOneByte (bytes value) (bytes value') →
      shardToken tenant (before ++ ⟨name, value⟩ :: after) ≠
        shardToken tenant (before ++ ⟨name, value'⟩ :: after) ∧
      sortedShardToken tenant (before ++ ⟨name, value⟩ :: after) ≠
        sortedShardToken tenant (before ++ ⟨name, value'⟩ :: after)) ∧
    ∀ value value' : String, DifferInOneDigit value value' →
      DifferInOneByte (bytes value) (bytes value') := by
  refine ⟨fnvAdd_injective, ?_, ?_, fun _ _ => DifferInOneDigit.differInOneByte⟩
  · intro tenant other labels
    exact ⟨shardToken_eq_iff, shardToken_eq_iff⟩
  · intro tenant name value value' before after hdiffer
    refine ⟨shardToken_ne hdiffer tenant name before after, ?_⟩
    obtain ⟨front, back, hsort⟩ := exists_sortByName_eq name before after
    rw [sortedShardToken, sortedShardToken, hsort, hsort]
    exact shardToken_ne hdiffer tenant name front back

/-- Two replicas of a series, and two of its instances. -/
theorem near_identical_series_differ_replicas :
    let series (replica inst : String) : List Label :=
      [⟨"__name__", "up"⟩, ⟨"inst", inst⟩, ⟨"bench_replica", replica⟩, ⟨"bench_id", "run"⟩]
    DifferInOneDigit "replica-00000" "replica-00001" ∧ DifferInOneDigit "inst-0" "inst-1" ∧
      sortedShardToken "tenant" (series "replica-00000" "inst-0") ≠
        sortedShardToken "tenant" (series "replica-00001" "inst-0") ∧
      shardToken "tenant" (series "replica-00000" "inst-0") ≠
        shardToken "tenant" (series "replica-00000" "inst-1") := by
  intro series
  have hreplica : DifferInOneDigit "replica-00000" "replica-00001" := by
    refine ⟨"replica-0000".toList, [], '0', '1', ?_⟩
    decide
  have hinst : DifferInOneDigit "inst-0" "inst-1" := by
    refine ⟨"inst-".toList, [], '0', '1', ?_⟩
    decide
  obtain ⟨-, -, hvalue, hdigit⟩ := near_identical_series_differ
  have hreplicas := hvalue "tenant" "bench_replica" _ _
    [⟨"__name__", "up"⟩, ⟨"inst", "inst-0"⟩] [⟨"bench_id", "run"⟩] (hdigit _ _ hreplica)
  have hinsts := hvalue "tenant" "inst" _ _ [⟨"__name__", "up"⟩]
    [⟨"bench_replica", "replica-00000"⟩, ⟨"bench_id", "run"⟩] (hdigit _ _ hinst)
  exact ⟨hreplica, hinst, hreplicas.2, hinsts.1⟩

end MetricLoad.Ring
