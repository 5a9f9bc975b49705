import MetricLoad.Workload.LabelSets
import Mathlib.Algebra.BigOperators.Group.List.Basic
import Mathlib.Algebra.BigOperators.Ring.List
import Mathlib.Algebra.Ring.Nat

/-!
# Indexed label sets

The label sets of a template are reached in two ways: by expansion, which appends the values of one
varying label after the other to all sets built so far, and by index, which reads the values off the
digits of the index.  Both give the same set at every index, and a template has exactly as many sets
as the product of the numbers of values.

The program counts label sets modulo `2 ^ 64`.  `combinations` is the count without the reduction,
and the two agree for every template with fewer sets than that.
-/

namespace MetricLoad

/-! ## Blocks of equal length -/

theorem length_flatMap_range_of_length {α : Type} {size : Nat} {block : Nat → List α}
    (hsize : ∀ i, (block i).length = size) (count : Nat) :
    ((List.range count).flatMap block).length = size * count := by
  induction count with
  | zero => rfl
  | succ count ih => simp [List.range_succ, ih, hsize, Nat.mul_succ]

/-- In a concatenation of blocks of one length, an index is a block and a place in it. -/
theorem getElem?_flatMap_range_of_length {α : Type} {size : Nat} {block : Nat → List α}
    (hsize : ∀ i, (block i).length = size) {count index : Nat} (hindex : index < size * count) :
    ((List.range count).flatMap block)[index]? = (block (index / size))[index % size]? := by
  induction count with
  | zero => exact absurd hindex (Nat.not_lt_zero _)
  | succ count ih =>
    have hlength := length_flatMap_range_of_length hsize count
    rw [List.range_succ, List.flatMap_append, List.flatMap_singleton]
    by_cases hbefore : index < size * count
    · rw [List.getElem?_append_left (by omega), ih hbefore]
    · -- The index lies in the last block.
      have hoffset : index - size * count < size := by
        rw [Nat.mul_succ] at hindex
        omega
      have hsplit : index = index - size * count + size * count := by omega
      have hdiv : index / size = count := by
        rw [hsplit, Nat.add_mul_div_left _ _ (by omega), Nat.div_eq_of_lt hoffset, Nat.zero_add]
      have hmod : index % size = index - size * count := by
        rw [hsplit, Nat.add_mul_mod_self_left, Nat.mod_eq_of_lt hoffset]
        omega
      rw [List.getElem?_append_right (by omega), hlength, hdiv, hmod]

/-! ## Expansion of one label -/

namespace VaryingLabel

theorem length_expand (v : VaryingLabel) (sets : List (List Label)) :
    (v.expand sets).length = sets.length * v.variants.toNat :=
  length_flatMap_range_of_length (fun _ => List.length_map _) _

/-- The sets that share a value of the label follow one another, so the value is the quotient. -/
theorem getElem?_expand (v : VaryingLabel) (sets : List (List Label)) {index : Nat}
    (hindex : index < sets.length * v.variants.toNat) :
    (v.expand sets)[index]? =
      sets[index % sets.length]?.map (· ++ [v.label (index / sets.length)]) := by
  rw [expand, getElem?_flatMap_range_of_length (fun _ => List.length_map _) hindex,
    List.getElem?_map]

end VaryingLabel

namespace SeriesTemplate

/-- The number of combinations of the values of the varying labels. -/
def combinations (s : SeriesTemplate) : Nat :=
  (s.varyingLabels.map (·.variants.toNat)).prod

/-! ## Expansion of all labels -/

theorem length_foldl_expand (labels : List VaryingLabel) (sets : List (List Label)) :
    (labels.foldl (fun sets v => v.expand sets) sets).length =
      sets.length * (labels.map (·.variants.toNat)).prod := by
  induction labels generalizing sets with
  | nil => simp
  | cons v rest ih =>
    rw [List.foldl_cons, ih, v.length_expand, List.map_cons, List.prod_cons, Nat.mul_assoc]

/-- Expansion from some sets on: the remainder picks one of them and the quotient spells the labels
appended to it. -/
theorem getElem?_foldl_expand (labels : List VaryingLabel) (sets : List (List Label)) {index : Nat}
    (hindex : index < sets.length * (labels.map (·.variants.toNat)).prod) :
    (labels.foldl (fun sets v => v.expand sets) sets)[index]? =
      sets[index % sets.length]?.map (· ++ digits labels (index / sets.length)) := by
  induction labels generalizing sets with
  | nil =>
    have hin : index < sets.length := by simpa using hindex
    simp [digits, Nat.mod_eq_of_lt hin, hin]
  | cons v rest ih =>
    rw [List.map_cons, List.prod_cons, ← Nat.mul_assoc] at hindex
    have hlength := v.length_expand sets
    -- An index below a product makes both factors positive.
    have hproduct : 0 < sets.length * v.variants.toNat :=
      Nat.pos_of_mul_pos_right (Nat.lt_of_le_of_lt (Nat.zero_le _) hindex)
    rw [List.foldl_cons, ih (v.expand sets) (by rwa [hlength]), hlength,
      v.getElem?_expand sets (Nat.mod_lt _ hproduct), Nat.mod_mul_right_mod,
      Nat.mod_mul_right_div_self, Option.map_map]
    congr 1
    funext base
    simp only [Function.comp, digits, List.append_assoc, List.singleton_append,
      Nat.div_div_eq_div_mul]

theorem length_labelSets (s : SeriesTemplate) : s.labelSets.length = s.combinations := by
  rw [labelSets, length_foldl_expand, List.length_singleton, Nat.one_mul, combinations]

theorem getElem?_labelSets (s : SeriesTemplate) {index : Nat} (hindex : index < s.combinations) :
    s.labelSets[index]? = some (s.baseLabels ++ digits s.varyingLabels index) := by
  have hone : index < [s.baseLabels].length * (s.varyingLabels.map (·.variants.toNat)).prod := by
    simpa [combinations] using hindex
  rw [labelSets, getElem?_foldl_expand s.varyingLabels [s.baseLabels] hone]
  simp [Nat.mod_one]

theorem exists_digits_of_mem_labelSets {s : SeriesTemplate} {labels : List Label}
    (h : labels ∈ s.labelSets) :
    ∃ index, index < s.combinations ∧ labels = s.baseLabels ++ digits s.varyingLabels index := by
  obtain ⟨index, hindex, rfl⟩ := List.getElem_of_mem h
  have hcombinations : index < s.combinations := by rwa [← s.length_labelSets]
  refine ⟨index, hcombinations, Option.some_inj.1 ?_⟩
  rw [← List.getElem?_eq_getElem hindex, s.getElem?_labelSets hcombinations]

/-- Every label set carries the metric name. -/
theorem nameLabel_mem_of_mem_labelSets {s : SeriesTemplate} {labels : List Label}
    (h : labels ∈ s.labelSets) : ⟨nameLabel, s.name⟩ ∈ labels := by
  obtain ⟨index, -, rfl⟩ := exists_digits_of_mem_labelSets h
  exact List.mem_append_left _ List.mem_cons_self

/-! ## The count of a word -/

theorem toNat_foldl_mul_variants (labels : List VaryingLabel) (count : UInt64) :
    (labels.foldl (fun count v => count * v.variants) count).toNat =
      count.toNat * (labels.map (·.variants.toNat)).prod % 2 ^ 64 := by
  induction labels generalizing count with
  | nil => simp
  | cons v rest ih =>
    rw [List.foldl_cons, ih, UInt64.toNat_mul, List.map_cons, List.prod_cons, Nat.mod_mul_mod,
      Nat.mul_assoc]

/-- The counted number of label sets is the number of combinations when a word can hold it. -/
theorem toNat_labelSetCount (s : SeriesTemplate) (hcount : s.combinations < 2 ^ 64) :
    s.labelSetCount.toNat = s.combinations := by
  rw [labelSetCount, toNat_foldl_mul_variants]
  simpa [combinations] using Nat.mod_eq_of_lt hcount

theorem labelSetCount_ne_zero_iff (s : SeriesTemplate) (hcount : s.combinations < 2 ^ 64) :
    s.labelSetCount ≠ 0 ↔ s.labelSets ≠ [] := by
  rw [ne_eq, ← UInt64.toNat_inj, s.toNat_labelSetCount hcount, ← s.length_labelSets, ne_eq,
    ← List.length_eq_zero_iff]
  rfl

/-- Access by index agrees with full expansion. -/
theorem labelSetAt?_eq_getElem? (s : SeriesTemplate) (hcount : s.combinations < 2 ^ 64)
    (index : Nat) : s.labelSetAt? index = s.labelSets[index]? := by
  rw [labelSetAt?, s.toNat_labelSetCount hcount]
  split
  · rename_i hindex
    rw [s.getElem?_labelSets hindex]
  · rename_i hindex
    rw [List.getElem?_eq_none (by rw [s.length_labelSets]; omega)]

/-! ## Divisors -/

/-- Why a division has no result. -/
inductive DivisionFault
  | zeroDivisor
  deriving DecidableEq, Repr

/-- The digits of an index, where a division by zero is a fault. -/
def digitsChecked : List VaryingLabel → Nat → Except DivisionFault (List Label)
  | [], _ => .ok []
  | v :: rest, index =>
    if v.variants = 0 then .error .zeroDivisor
    else (digitsChecked rest (index / v.variants.toNat)).map
      (v.label (index % v.variants.toNat) :: ·)

/-- Access by index, where a division by zero is a fault. -/
def labelSetAtChecked (s : SeriesTemplate) (index : Nat) :
    Except DivisionFault (Option (List Label)) :=
  if index < s.labelSetCount.toNat then
    (digitsChecked s.varyingLabels index).map fun labels => some (s.baseLabels ++ labels)
  else .ok none

theorem digitsChecked_eq_ok {labels : List VaryingLabel} (h : ∀ v ∈ labels, v.variants ≠ 0)
    (index : Nat) : digitsChecked labels index = .ok (digits labels index) := by
  induction labels generalizing index with
  | nil => rfl
  | cons v rest ih =>
    have hrest : ∀ v ∈ rest, v.variants ≠ 0 := fun v hv => h v (List.mem_cons_of_mem _ hv)
    rw [digitsChecked, if_neg (h v List.mem_cons_self), ih hrest]
    rfl

/-- One label without values leaves nothing to count, also modulo `2 ^ 64`. -/
theorem labelSetCount_eq_zero {s : SeriesTemplate} {v : VaryingLabel} (hv : v ∈ s.varyingLabels)
    (hzero : v.variants = 0) : s.labelSetCount = 0 := by
  have hfactor : 0 ∈ s.varyingLabels.map (·.variants.toNat) :=
    List.mem_map.2 ⟨v, hv, by rw [hzero]; rfl⟩
  have hproduct : (s.varyingLabels.map (·.variants.toNat)).prod = 0 := List.prod_eq_zero hfactor
  rw [← UInt64.toNat_inj, labelSetCount, toNat_foldl_mul_variants, hproduct]
  rfl

/-- Behind the check of the index no label is without values, so nothing is divided by zero. -/
theorem labelSetAtChecked_eq_ok (s : SeriesTemplate) (index : Nat) :
    s.labelSetAtChecked index = .ok (s.labelSetAt? index) := by
  unfold labelSetAtChecked labelSetAt?
  split
  · rename_i hindex
    have hvariants : ∀ v ∈ s.varyingLabels, v.variants ≠ 0 := by
      intro v hv hzero
      rw [labelSetCount_eq_zero hv hzero] at hindex
      exact absurd hindex (Nat.not_lt_zero index)
    rw [digitsChecked_eq_ok hvariants]
    rfl
  · rfl

/-- The count of label sets is their number, and access by index gives the label set of the full
expansion at that index and nothing behind the last one, without ever dividing by zero. -/
theorem indexed_access_eq_expansion (s : SeriesTemplate) (hcount : s.combinations < 2 ^ 64) :
    s.labelSetCount.toNat = s.labelSets.length ∧
      ∀ index, s.labelSetAtChecked index = .ok (s.labelSetAt? index) ∧
        (∀ hindex : index < s.labelSets.length,
          s.labelSetAt? index = some s.labelSets[index]) ∧
        (s.labelSets.length ≤ index → s.labelSetAt? index = none) := by
  constructor
  · rw [s.toNat_labelSetCount hcount, s.length_labelSets]
  · intro index
    refine ⟨s.labelSetAtChecked_eq_ok index, fun hindex => ?_, fun hindex => ?_⟩
    · rw [s.labelSetAt?_eq_getElem? hcount, List.getElem?_eq_getElem hindex]
    · rw [s.labelSetAt?_eq_getElem? hcount, List.getElem?_eq_none hindex]

/-- The second of two labels takes its second value from the fourth label set on. -/
theorem indexed_access_eq_expansion_carry :
    let s : SeriesTemplate :=
      ⟨"cpu", .gaugeZero, .empty, [⟨"mode", "m", 3⟩, ⟨"core", "c", 2⟩]⟩
    s.combinations < 2 ^ 64 ∧ s.labelSets.length = 6 ∧
      s.labelSetAtChecked 4 = .ok (s.labelSetAt? 4) ∧
      s.labelSetAt? 4 = some [⟨"__name__", "cpu"⟩, ⟨"mode", "m-1"⟩, ⟨"core", "c-1"⟩] := by
  intro s
  have hcount : s.combinations < 2 ^ 64 := by decide
  have hlength : s.labelSets.length = 6 := by rw [s.length_labelSets]; rfl
  obtain ⟨-, haccess⟩ := indexed_access_eq_expansion s hcount
  obtain ⟨hchecked, hinside, -⟩ := haccess 4
  refine ⟨hcount, hlength, hchecked, ?_⟩
  rw [hinside (by rw [hlength]; decide)]
  rfl

end SeriesTemplate
end MetricLoad
