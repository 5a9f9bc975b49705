import MetricLoad.Proofs.Ring.Hash
import MetricLoad.Proofs.Text.Order
import Mathlib.Data.List.Basic
import Mathlib.Data.List.Perm.Basic
import Mathlib.Tactic.Common

/-!
# Tokens do not depend on the order of labels

Before a token is computed the labels are put in the order of their names.  Labels of equal name
keep their order, so a list of labels has exactly one such arrangement: its first label is the first
one of the least name, and behind it the others are arranged.  Two lists that agree on the order of
the labels of every single name have the same arrangement and hence the same token.

Where no name occurs twice, any order of the labels will do.
-/

namespace MetricLoad.Ring

open MetricLoad.Text

/-- One list of labels is the other in a different order, but labels of equal name keep theirs. -/
structure IsReordering (labels other : List Label) : Prop where
  perm : labels.Perm other
  sameOrder : ∀ name, labels.filter (·.name = name) = other.filter (·.name = name)

/-- The stable sort of some labels by the bytes of their names. -/
structure IsStableSort (labels sorted : List Label) : Prop where
  ascending : sorted.Pairwise fun a b => bytes a.name ≤ bytes b.name
  reordering : IsReordering sorted labels

/-! ## Arrangements -/

theorem IsReordering.refl (labels : List Label) : IsReordering labels labels :=
  ⟨.refl labels, fun _ => rfl⟩

theorem IsReordering.symm {labels other : List Label} (h : IsReordering labels other) :
    IsReordering other labels :=
  ⟨h.perm.symm, fun name => (h.sameOrder name).symm⟩

theorem IsReordering.trans {first second third : List Label} (h : IsReordering first second)
    (h' : IsReordering second third) : IsReordering first third :=
  ⟨h.perm.trans h'.perm, fun name => (h.sameOrder name).trans (h'.sameOrder name)⟩

/-- Two ascending lists with the same order of labels for every name are the same list. -/
theorem eq_of_ascending {labels other : List Label}
    (hlabels : labels.Pairwise fun a b => bytes a.name ≤ bytes b.name)
    (hother : other.Pairwise fun a b => bytes a.name ≤ bytes b.name)
    (h : IsReordering labels other) : labels = other := by
  induction labels generalizing other with
  | nil => exact (List.nil_perm.1 h.perm).symm
  | cons l labels ih =>
    rcases other with _ | ⟨m, other⟩
    · exact absurd h.perm.length_eq (by simp)
    · obtain ⟨hl, hlabelsRest⟩ := List.pairwise_cons.1 hlabels
      obtain ⟨hm, hotherRest⟩ := List.pairwise_cons.1 hother
      -- Each list begins with the least name, so both begin with the same one.
      have hname : l.name = m.name := by
        apply String.le_antisymm
        · rcases List.mem_cons.1 (h.perm.mem_iff.2 List.mem_cons_self) with rfl | hmem
          · exact String.le_refl _
          · exact bytes_le_iff.1 (hl m hmem)
        · rcases List.mem_cons.1 (h.perm.mem_iff.1 List.mem_cons_self) with rfl | hmem
          · exact String.le_refl _
          · exact bytes_le_iff.1 (hm l hmem)
      have hfirst := h.sameOrder m.name
      simp only [List.filter_cons, hname, decide_true, if_true, List.cons.injEq] at hfirst
      obtain ⟨rfl, -⟩ := hfirst
      have hrest : IsReordering labels other := by
        refine ⟨h.perm.cons_inv, fun name => ?_⟩
        have hsame := h.sameOrder name
        by_cases hl : l.name = name
        · simpa [List.filter_cons, hl] using hsame
        · simpa [List.filter_cons, hl] using hsame
      rw [ih hlabelsRest hotherRest hrest]

/-- Where no name occurs twice, every order is as good as any other. -/
theorem IsReordering.of_nodup {labels other : List Label} (hnodup : (labels.map (·.name)).Nodup)
    (hperm : labels.Perm other) : IsReordering labels other := by
  refine ⟨hperm, fun name => ?_⟩
  have hfilter := hperm.filter (·.name = name)
  have hone : (labels.filter (·.name = name)).length ≤ 1 := by
    have hcount := List.nodup_iff_count.1 hnodup name
    rw [List.count, List.countP_map, List.countP_eq_length_filter] at hcount
    exact hcount
  rcases hlist : labels.filter (·.name = name) with _ | ⟨l, rest⟩
  · rw [hlist] at hfilter
    rw [hlist, List.nil_perm.1 hfilter]
  · rw [hlist] at hfilter hone
    obtain rfl : rest = [] := by simpa using hone
    rw [hlist, List.singleton_perm.1 hfilter]

/-! ## The arrangement by name -/

theorem nameLe_trans (a b c : Label) (hab : bytesLe a.name b.name = true)
    (hbc : bytesLe b.name c.name = true) : bytesLe a.name c.name = true := by
  simp only [bytesLe, decide_eq_true_iff] at *
  exact String.le_trans hab hbc

theorem nameLe_total (a b : Label) : (bytesLe a.name b.name || bytesLe b.name a.name) = true := by
  simp only [bytesLe, Bool.or_eq_true, decide_eq_true_iff]
  exact String.le_total _ _

theorem isStableSort_sortByName (labels : List Label) : IsStableSort labels (sortByName labels) := by
  have hperm : (sortByName labels).Perm labels := List.mergeSort_perm _ _
  refine ⟨?_, hperm, fun name => ?_⟩
  · have hsorted := List.pairwise_mergeSort nameLe_trans nameLe_total labels
    exact hsorted.imp fun h => bytesLe_iff.1 h
  · -- The labels of one name are in order already, so sorting leaves them as they are.
    have hnamed : (labels.filter (·.name = name)).Pairwise fun a b => bytesLe a.name b.name := by
      apply List.pairwise_of_forall_mem_list
      intro a ha b hb
      simp only [List.mem_filter, decide_eq_true_iff] at ha hb
      simp [ha.2, hb.2]
    have hsublist : (labels.filter (·.name = name)).Sublist (sortByName labels) :=
      List.sublist_mergeSort nameLe_trans nameLe_total hnamed List.filter_sublist
    have hkept := hsublist.filter (·.name = name)
    rw [List.filter_filter] at hkept
    simp only [Bool.and_self] at hkept
    exact (hkept.eq_of_length (hperm.filter _).length_eq.symm).symm

theorem IsStableSort.eq_sortByName {labels sorted : List Label} (h : IsStableSort labels sorted) :
    sorted = sortByName labels := by
  have hsort := isStableSort_sortByName labels
  exact eq_of_ascending h.ascending hsort.ascending (h.reordering.trans hsort.reordering.symm)

theorem IsReordering.sortByName_eq {labels other : List Label} (h : IsReordering labels other) :
    sortByName labels = sortByName other := by
  obtain ⟨hascending, hsort⟩ := isStableSort_sortByName labels
  have hother : IsStableSort other (sortByName labels) := ⟨hascending, hsort.trans h⟩
  exact hother.eq_sortByName

/-- Two lists of labels with the same order of the labels of every name have the same token: the one
of their only stable sort, and that is a hash of all their bytes. -/
theorem sorted_token_ignores_label_order (tenant : String) (labels : List Label) :
    (∀ other, IsReordering other labels →
      sortedShardToken tenant other = sortedShardToken tenant labels) ∧
    ((labels.map (·.name)).Nodup → ∀ other, other.Perm labels →
      sortedShardToken tenant other = sortedShardToken tenant labels) ∧
    (∃! sorted, IsStableSort labels sorted) ∧
    (∀ sorted, IsStableSort labels sorted →
      sortedShardToken tenant labels = shardToken tenant sorted ∧
        (sortedShardToken tenant labels).toNat = fnv1a (tokenBytes tenant sorted)) ∧
    ((labels.Pairwise fun a b => bytes a.name ≤ bytes b.name) →
      sortedShardToken tenant labels = shardToken tenant labels) ∧
    (shardToken tenant labels).toNat = fnv1a (tokenBytes tenant labels) := by
  have hsort := isStableSort_sortByName labels
  have hreordered (other : List Label) (h : IsReordering other labels) :
      sortedShardToken tenant other = sortedShardToken tenant labels := by
    rw [sortedShardToken, sortedShardToken, h.sortByName_eq]
  refine ⟨hreordered, ?_, ?_, ?_, ?_, toNat_shardToken tenant labels⟩
  · intro hnodup other hperm
    exact hreordered other (IsReordering.of_nodup hnodup hperm.symm).symm
  · exact ⟨sortByName labels, hsort, fun sorted h => h.eq_sortByName⟩
  · intro sorted h
    rw [h.eq_sortByName]
    exact ⟨rfl, toNat_shardToken tenant _⟩
  · intro hascending
    have hself : IsStableSort labels labels := ⟨hascending, IsReordering.refl labels⟩
    rw [sortedShardToken, ← hself.eq_sortByName]

/-- A name that occurs twice, behind one that comes before it. -/
def repeatedLabels : List Label :=
  [⟨"job", "b"⟩, ⟨"__name__", "up"⟩, ⟨"job", "a"⟩]

theorem sorted_token_ignores_label_order_repeated :
    let sorted : List Label := [⟨"__name__", "up"⟩, ⟨"job", "b"⟩, ⟨"job", "a"⟩]
    IsStableSort repeatedLabels sorted ∧ IsReordering sorted repeatedLabels ∧
      sortedShardToken "é" repeatedLabels = shardToken "é" sorted ∧
      sortedShardToken "é" sorted = sortedShardToken "é" repeatedLabels ∧
      sortedShardToken "é" sorted = shardToken "é" sorted ∧
      sortedShardToken "é" [⟨"b", "2"⟩, ⟨"a", "1"⟩] =
        sortedShardToken "é" [⟨"a", "1"⟩, ⟨"b", "2"⟩] := by
  intro sorted
  have hascending : sorted.Pairwise fun a b => bytes a.name ≤ bytes b.name := by
    simp only [bytes_le_iff]
    decide
  have hreordering : IsReordering sorted repeatedLabels := by
    refine ⟨by decide, fun name => ?_⟩
    by_cases hjob : "job" = name
    · subst hjob
      rfl
    · simp [sorted, repeatedLabels, List.filter_cons, hjob]
  have hsort : IsStableSort repeatedLabels sorted := ⟨hascending, hreordering⟩
  obtain ⟨hreordered, -, -, hstable, -⟩ := sorted_token_ignores_label_order "é" repeatedLabels
  obtain ⟨-, -, -, -, hown, -⟩ := sorted_token_ignores_label_order "é" sorted
  obtain ⟨-, hdistinct, -⟩ := sorted_token_ignores_label_order "é" [⟨"a", "1"⟩, ⟨"b", "2"⟩]
  refine ⟨hsort, hreordering, (hstable sorted hsort).1, hreordered sorted hreordering,
    hown hascending, ?_⟩
  exact hdistinct (by decide) _ (.swap _ _ _)

end MetricLoad.Ring
