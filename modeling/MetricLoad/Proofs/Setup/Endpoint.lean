import MetricLoad.Proofs.Balancer
import MetricLoad.Setup

/-!
# Balancers of a set-up

A benchmark that sends to an endpoint gets a balancer exactly when it has workers and its endpoint
resolves to some addresses.  So whatever is set up over an endpoint can run.
-/

namespace MetricLoad.Setup

variable {σ : Type} {discover : Discovery σ} {endpoint : String} {workers : UInt64} {m : Metrics}
  {state : σ}

theorem balance_eq_ok_iff {b : Balancer} :
    (balance discover endpoint workers m state).1 = .ok b ↔
      workers ≠ 0 ∧ Balancer.create endpoint (discover endpoint state).1 = .ok b := by
  unfold balance
  by_cases hworkers : workers = 0
  · simp [hworkers]
  · cases hcreate : Balancer.create endpoint (discover endpoint state).1 <;> simp [hworkers, hcreate]

/-- There are workers, and addresses to send to. -/
structure IsReady (workers : Nat) (b : Balancer) : Prop where
  workers_pos : 0 < workers
  addresses_ne_nil : b.addresses ≠ []

/-- What is set up over an endpoint has a balancer that is ready for its workers. -/
theorem exists_of_overEndpoint {β : Type} {refuse : EndpointError → SetupError}
    {make : Balancer → β} {made : β}
    (h : (overEndpoint discover endpoint workers refuse make m state).1 = .ok made) :
    ∃ b, made = make b ∧ IsReady workers.toNat b := by
  have hmade : ((balance discover endpoint workers m state).1.mapError refuse).map make = .ok made :=
    h
  cases hbalance : (balance discover endpoint workers m state).1 with
  | error cause =>
    rw [hbalance] at hmade
    cases hmade
  | ok b =>
    rw [hbalance] at hmade
    cases hmade
    obtain ⟨hworkers, hcreate⟩ := balance_eq_ok_iff.1 hbalance
    have hpositive : workers.toNat ≠ 0 := fun hzero => hworkers (UInt64.toNat_inj.1 hzero)
    exact ⟨b, rfl, Nat.pos_of_ne_zero hpositive, Balancer.addresses_create_ne_nil hcreate⟩

end MetricLoad.Setup
