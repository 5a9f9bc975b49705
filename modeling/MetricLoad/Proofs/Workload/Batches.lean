import MetricLoad.Workload.Batches
import Mathlib.Algebra.Order.Floor.Div
import Mathlib.Data.List.Basic
import Mathlib.Tactic.Common

/-!
# Batches divide a list

A division of a list into batches keeps the elements in order.  All batches but the last are full,
and the last is neither empty nor longer than a full one.  A list can be divided in one way only:
the first batch is what fits it, and the others divide what is left.

Splitting takes batches off the front in just this way, round after round, and ends with the first
round that finds nothing.  So it gives that division, whatever the size and the length of the list.
-/

namespace MetricLoad

variable {α : Type} {size : Nat} {elements batch : List α} {later : List (List α)}

/-- Some batches divide a list: they hold its elements in order, every batch but the last is full,
and the last is not empty.  A size of zero counts as one. -/
structure IsBatching (size : Nat) (elements : List α) (batches : List (List α)) : Prop where
  flatten_eq : batches.flatten = elements
  full : ∀ batch ∈ batches.dropLast, batch.length = max size 1
  last : ∀ batch, batches.getLast? = some batch → 1 ≤ batch.length ∧ batch.length ≤ max size 1

/-! ## The first batch and the others -/

theorem isBatching_nil_iff : IsBatching size elements [] ↔ elements = [] := by
  constructor
  · rintro ⟨hflatten, -, -⟩
    simpa using hflatten.symm
  · rintro rfl
    exact ⟨rfl, by simp, by simp⟩

/-- The first batch is what fits it, and behind it the others divide what is left. -/
theorem IsBatching.uncons (h : IsBatching size elements (batch :: later)) :
    elements ≠ [] ∧ batch = elements.take (max size 1) ∧
      IsBatching size (elements.drop (max size 1)) later := by
  obtain ⟨rfl, hfull, hlast⟩ := h
  rcases later with _ | ⟨next, later⟩
  · -- The only batch is the last one, so it holds everything.
    obtain ⟨hnonempty, hfits⟩ := hlast batch rfl
    have hne : batch ≠ [] := List.ne_nil_of_length_pos hnonempty
    have hnothing : batch.drop (max size 1) = [] := List.drop_of_length_le hfits
    simp [hne, isBatching_nil_iff, hnothing, List.take_of_length_le hfits]
  · have hbatch : batch.length = max size 1 := hfull batch (by simp)
    have hne : batch ≠ [] := List.ne_nil_of_length_pos (by omega)
    refine ⟨by simp [hne], (List.take_left' hbatch).symm, (List.drop_left' hbatch).symm, ?_, ?_⟩
    · intro other hother
      exact hfull other (by simp [hother])
    · intro other hother
      exact hlast other (by simpa using hother)

/-- A batch in front of a division of what is left behind it. -/
theorem IsBatching.cons (hne : elements ≠ [])
    (h : IsBatching size (elements.drop (max size 1)) later) :
    IsBatching size elements (elements.take (max size 1) :: later) := by
  have hpos : 0 < elements.length := List.length_pos_iff.2 hne
  refine ⟨by rw [List.flatten_cons, h.flatten_eq, List.take_append_drop], ?_, ?_⟩
  · intro batch hbatch
    rcases later with _ | ⟨next, later⟩
    · simp at hbatch
    · rw [List.dropLast_cons_cons] at hbatch
      rcases List.mem_cons.1 hbatch with rfl | hbatch
      · -- Something is left for the next batch, so this one is full.
        have hleft : max size 1 < elements.length := by
          simpa using h.uncons.1
        simp only [List.length_take]
        omega
      · exact h.full batch hbatch
  · intro batch hbatch
    rcases later with _ | ⟨next, later⟩
    · obtain rfl : elements.take (max size 1) = batch := by simpa using hbatch
      rw [List.length_take]
      omega
    · exact h.last batch (by simpa using hbatch)

/-! ## Splitting -/

/-- Splitting in a number of rounds that is fixed beforehand, without a result if these do not
suffice.  Every round takes a batch off the front, and an empty one ends the splitting. -/
def splitWithin (size : Nat) : Nat → List α → Option (List (List α))
  | 0, _ => none
  | rounds + 1, elements =>
    if elements.take (max size 1) = [] then some []
    else (splitWithin size rounds (elements.drop (max size 1))).map
      (elements.take (max size 1) :: ·)

/-- One round of splitting takes a batch off the front; the round that finds none is the last. -/
theorem splitBatches_eq (size : Nat) (elements : List α) :
    splitBatches size elements =
      if elements.take (max size 1) = [] then []
      else elements.take (max size 1) :: splitBatches size (elements.drop (max size 1)) := by
  have hlimit : max size 1 = size - 1 + 1 := by omega
  rcases elements with _ | ⟨first, rest⟩
  · simp [splitBatches]
  · rw [splitBatches, hlimit]
    simp

theorem isBatching_splitBatches (size : Nat) (elements : List α) :
    IsBatching size elements (splitBatches size elements) := by
  have hlimit : max size 1 = size - 1 + 1 := by omega
  fun_induction splitBatches size elements with
  | case1 => exact isBatching_nil_iff.2 rfl
  | case2 first rest ih =>
    have hlater : IsBatching size ((first :: rest).drop (max size 1))
        (splitBatches size (rest.drop (size - 1))) := by
      rw [hlimit, List.drop_succ_cons]
      exact ih
    have htake : (first :: rest).take (max size 1) = first :: rest.take (size - 1) := by
      rw [hlimit, List.take_succ_cons]
    rw [← htake]
    exact hlater.cons (List.cons_ne_nil first rest)

theorem IsBatching.eq_splitBatches {batches : List (List α)} (h : IsBatching size elements batches) :
    batches = splitBatches size elements := by
  induction batches generalizing elements with
  | nil => rw [isBatching_nil_iff.1 h, splitBatches]
  | cons batch later ih =>
    obtain ⟨hne, hbatch, hlater⟩ := h.uncons
    have hround : elements.take (max size 1) ≠ [] := by simp [hne]
    rw [splitBatches_eq, if_neg hround, hbatch, ih hlater]

/-- A round that takes something leaves one batch fewer to take. -/
theorem length_ceilDiv_of_ne_nil (hne : elements ≠ []) :
    elements.length ⌈/⌉ max size 1 = (elements.drop (max size 1)).length ⌈/⌉ max size 1 + 1 := by
  have hlength : 0 < elements.length := List.length_pos_iff.2 hne
  have hpos : 0 < max size 1 := by omega
  have hround : elements.length + max size 1 - 1 = elements.length - 1 + max size 1 := by omega
  rw [Nat.ceilDiv_eq_add_pred_div, Nat.ceilDiv_eq_add_pred_div, List.length_drop, hround,
    Nat.add_div_right _ hpos]
  congr 1
  -- What is left counts only if the batch is full; else both quotients are zero.
  rcases Nat.lt_or_ge elements.length (max size 1) with hshort | hlong
  · rw [Nat.div_eq_of_lt (by omega), Nat.div_eq_of_lt (by omega)]
  · congr 1
    omega

/-- A division has as many batches as are needed to hold all elements. -/
theorem IsBatching.length_eq {batches : List (List α)} (h : IsBatching size elements batches) :
    batches.length = elements.length ⌈/⌉ max size 1 := by
  induction batches generalizing elements with
  | nil =>
    rw [isBatching_nil_iff.1 h, List.length_nil, List.length_nil, zero_ceilDiv]
  | cons batch later ih =>
    obtain ⟨hne, -, hlater⟩ := h.uncons
    rw [List.length_cons, ih hlater, length_ceilDiv_of_ne_nil hne]

/-- Splitting ends with the first round that finds nothing, one after the last batch. -/
theorem splitWithin_eq (size rounds : Nat) (elements : List α) :
    splitWithin size rounds elements =
      if elements.length ⌈/⌉ max size 1 < rounds then some (splitBatches size elements)
      else none := by
  induction rounds generalizing elements with
  | zero => simp [splitWithin]
  | succ rounds ih =>
    rw [splitWithin, splitBatches_eq]
    by_cases hne : elements = []
    · simp [hne]
    · have hround : elements.take (max size 1) ≠ [] := by simp [hne]
      rw [if_neg hround, if_neg hround, ih, length_ceilDiv_of_ne_nil hne]
      split_ifs <;> first | rfl | omega

theorem nil_not_mem_splitBatches (size : Nat) (elements : List α) :
    [] ∉ splitBatches size elements := by
  fun_induction splitBatches size elements with
  | case1 => simp
  | case2 first rest ih => simp [ih]

/-- Splitting ends in the round after the last batch.  It divides a list into as many batches as are
needed, none of them empty, and there is no other way to divide it. -/
theorem splitBatches_is_only_batching (size : Nat) (elements : List α) :
    (∀ rounds, splitWithin size rounds elements =
      if elements.length ⌈/⌉ max size 1 < rounds then some (splitBatches size elements)
      else none) ∧
    (splitBatches size elements).length = elements.length ⌈/⌉ max size 1 ∧
    [] ∉ splitBatches size elements ∧
    ∀ batches, IsBatching size elements batches ↔ batches = splitBatches size elements := by
  have hsplit := isBatching_splitBatches size elements
  refine ⟨fun rounds => splitWithin_eq size rounds elements, hsplit.length_eq,
    nil_not_mem_splitBatches size elements, fun batches => ?_⟩
  constructor
  · intro h
    exact h.eq_splitBatches
  · rintro rfl
    exact hsplit

/-- Seven elements in batches of three; a size of zero gives batches of one. -/
example : splitBatches 3 [1, 2, 3, 4, 5, 6, 7] = [[1, 2, 3], [4, 5, 6], [7]] ∧
    splitBatches 0 [1, 2] = [[1], [2]] := by
  cbv

end MetricLoad
