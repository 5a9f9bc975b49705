/-!
# Families

A family holds one metric for every combination of label values that has been used, in the order of
first use.
-/

namespace MetricLoad.Metrics

/-- Metrics by their label values. -/
abbrev Family (κ α : Type) := List (κ × α)

namespace Family

variable {κ α : Type} [DecidableEq κ]

/-- The metric of a combination of label values. -/
def get? (family : Family κ α) (key : κ) : Option α :=
  (family.find? fun entry => entry.1 = key).map (·.2)

/-- Changes the metric of a combination of label values, which begins as `initial`. -/
def modify (initial : α) (change : α → α) (key : κ) : Family κ α → Family κ α
  | [] => [(key, change initial)]
  | (k, a) :: rest =>
    if k = key then (k, change a) :: rest else (k, a) :: modify initial change key rest

theorem get?_modify_self (initial : α) (change : α → α) (key : κ) (family : Family κ α) :
    get? (modify initial change key family) key =
      some (change ((get? family key).getD initial)) := by
  induction family with
  | nil => simp [modify, get?]
  | cons entry rest ih =>
    obtain ⟨k, a⟩ := entry
    by_cases h : k = key
    · simp [modify, get?, h]
    · simp only [get?] at ih
      simp [modify, get?, h, ih]

theorem get?_modify_of_ne (initial : α) (change : α → α) {key other : κ} (hne : other ≠ key)
    (family : Family κ α) : get? (modify initial change key family) other = get? family other := by
  induction family with
  | nil => simp [modify, get?, hne.symm]
  | cons entry rest ih =>
    obtain ⟨k, a⟩ := entry
    by_cases h : k = key
    · subst h
      simp [modify, get?, hne.symm]
    · simp only [get?] at ih
      by_cases ho : k = other
      · subst ho
        simp [modify, get?, h]
      · simp [modify, get?, h, ho, ih]

end Family
end MetricLoad.Metrics
