import MetricLoad.Balancer

/-!
# Balancers have addresses

A balancer is created with the addresses of its first resolution, and no later resolution leaves it
without any: only a list that is not empty replaces the addresses.  A pick of a position in the list
therefore always gives an address.
-/

namespace MetricLoad.Balancer

/-- Addresses come from a resolution that has found some. -/
theorem outcome_eq_ok_iff {target : String} {r : Resolution} {addresses : List String} :
    outcome target r = .ok addresses ↔ r = .found addresses ∧ addresses ≠ [] := by
  cases r with
  | failed cause => simp [outcome]
  | late => simp [outcome]
  | found found =>
    cases found with
    | nil => simp +contextual [outcome, eq_comm]
    | cons first rest => simp +contextual [outcome, eq_comm]

theorem outcome_ne_nil {target : String} {r : Resolution} {addresses : List String}
    (h : outcome target r = .ok addresses) : addresses ≠ [] :=
  (outcome_eq_ok_iff.1 h).2

theorem create_eq_ok_iff {target : String} {r : Resolution} {b : Balancer} :
    create target r = .ok b ↔
      ∃ addresses, outcome target r = .ok addresses ∧ b = (unresolved target).replace addresses := by
  unfold create
  cases houtcome : outcome target r with
  | error e => simp [Except.map]
  | ok addresses => simp [Except.map, eq_comm]

theorem addresses_create_ne_nil {target : String} {r : Resolution} {b : Balancer}
    (h : create target r = .ok b) : b.addresses ≠ [] := by
  obtain ⟨addresses, houtcome, rfl⟩ := create_eq_ok_iff.1 h
  exact outcome_ne_nil houtcome

/-- A resolution never takes away the last address. -/
theorem addresses_resolve_ne_nil {b : Balancer} (h : b.addresses ≠ []) (r : Resolution) :
    (b.resolve r).2.addresses ≠ [] := by
  unfold resolve
  split
  · exact h
  · rename_i addresses houtcome
    exact outcome_ne_nil houtcome

@[simp]
theorem addresses_client (b : Balancer) (address : String) :
    (b.client address).2.addresses = b.addresses := by
  unfold client
  split <;> rfl

/-- A position in the list of addresses gives an address with its client, and the addresses stay. -/
theorem exists_pickAt_eq {b : Balancer} {position : Nat} (h : position < b.addresses.length) :
    ∃ c next, b.pickAt position = (some (b.addresses[position], c), next) ∧
      next.addresses = b.addresses := by
  refine ⟨(b.client b.addresses[position]).1, (b.client b.addresses[position]).2, ?_, ?_⟩
  · unfold pickAt
    rw [List.getElem?_eq_getElem h]
  · exact addresses_client b b.addresses[position]

end MetricLoad.Balancer
