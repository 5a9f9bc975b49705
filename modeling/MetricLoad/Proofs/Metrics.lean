import MetricLoad.Metrics
import Mathlib.Algebra.BigOperators.Group.List.Basic
import Mathlib.Algebra.Ring.Nat

/-!
# Counting observations

An observation adds one to the count under its own labels, none to the count under any other, and
so one to the number of observations of the whole family.
-/

namespace MetricLoad.Metrics

namespace Family

variable {κ : Type} [DecidableEq κ]

/-- The number of observations under some labels. -/
def countOf (family : Family κ Histogram) (key : κ) : Nat :=
  ((family.get? key).map (·.count)).getD 0

/-- The number of observations under any labels. -/
def observations (family : Family κ Histogram) : Nat :=
  (family.map (·.2.count)).sum

theorem countOf_modify_observe (family : Family κ Histogram) (key other : κ) (seconds : Float) :
    countOf (modify Histogram.empty (·.observe seconds) key family) other =
      countOf family other + if key = other then 1 else 0 := by
  unfold countOf
  by_cases heq : key = other
  · subst heq
    rw [get?_modify_self, if_pos rfl]
    cases get? family key <;> rfl
  · rw [get?_modify_of_ne _ _ (Ne.symm heq), if_neg heq, Nat.add_zero]

theorem observations_modify_observe (family : Family κ Histogram) (key : κ) (seconds : Float) :
    observations (modify Histogram.empty (·.observe seconds) key family) =
      observations family + 1 := by
  induction family with
  | nil => rfl
  | cons entry rest ih =>
    obtain ⟨k, h⟩ := entry
    unfold observations at ih ⊢
    by_cases heq : k = key
    · simp only [modify, if_pos heq, List.map_cons, List.sum_cons, Histogram.observe]
      omega
    · simp only [modify, if_neg heq, List.map_cons, List.sum_cons, ih]
      omega

end Family

/-- The number of observations of write requests. -/
def writeObservations (m : Metrics) : Nat :=
  m.writeLatency.observations

theorem writeCount_observeWrite (m : Metrics) (code other : String) (seconds : Float) :
    (m.observeWrite code seconds).writeCount other =
      m.writeCount other + if code = other then 1 else 0 :=
  m.writeLatency.countOf_modify_observe code other seconds

theorem writeObservations_observeWrite (m : Metrics) (code : String) (seconds : Float) :
    (m.observeWrite code seconds).writeObservations = m.writeObservations + 1 :=
  m.writeLatency.observations_modify_observe code seconds

/-- The number of observations of queries. -/
def queryObservations (m : Metrics) : Nat :=
  m.queryLatency.observations

theorem queryCount_observeQuery (m : Metrics) (status type otherStatus otherType : String)
    (seconds : Float) :
    (m.observeQuery status type seconds).queryCount otherStatus otherType =
      m.queryCount otherStatus otherType +
        if (status, type) = (otherStatus, otherType) then 1 else 0 :=
  m.queryLatency.countOf_modify_observe (status, type) (otherStatus, otherType) seconds

theorem queryObservations_observeQuery (m : Metrics) (status type : String) (seconds : Float) :
    (m.observeQuery status type seconds).queryObservations = m.queryObservations + 1 :=
  m.queryLatency.observations_modify_observe (status, type) seconds

end MetricLoad.Metrics
