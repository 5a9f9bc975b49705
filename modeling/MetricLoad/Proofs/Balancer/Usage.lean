import MetricLoad.Balancer.Refresh
import MetricLoad.Proofs.Balancer
import MetricLoad.Proofs.Random.Uniform

/-!
# Balancers in use

A balancer is used by resolving its endpoint anew and by picking addresses, in any order.  Between
the calls it keeps to `IsKept`: its addresses are those of the latest resolution that found some in
time, the gauge is their number, and each client that it keeps is the client of an address it still
has.  A resolution that fails, is late or finds nothing gives its error and leaves the balancer as
it was.  So there is always an address to pick.

A resolution is given by an attempt, that is by what discovery answers and after how long.
-/

namespace MetricLoad

/-- The addresses of an attempt that finds some in time. -/
def Attempt.found? (a : Attempt) : Option (List String) :=
  match a.answer with
  | .error _ => none
  | .ok [] => none
  | .ok (first :: rest) => if a.delay ≤ Attempt.limit then some (first :: rest) else none

theorem Attempt.found?_eq_some_iff {a : Attempt} {addresses : List String} :
    a.found? = some addresses ↔
      a.delay ≤ Attempt.limit ∧ a.answer = .ok addresses ∧ addresses ≠ [] := by
  unfold found?
  split
  · simp_all
  · simp_all
  · rename_i first rest hanswer
    rw [hanswer]
    constructor
    · intro h
      obtain ⟨hdelay, heq⟩ := Option.ite_none_right_eq_some.1 h
      cases heq
      exact ⟨hdelay, rfl, List.cons_ne_nil first rest⟩
    · rintro ⟨hdelay, heq, -⟩
      cases heq
      exact if_pos hdelay

/-- A call on a balancer. -/
inductive Balancer.Call
  | resolve (attempt : Attempt)
  | pick

/-- The addresses that a call finds. -/
def Balancer.Call.found? : Call → Option (List String)
  | .resolve attempt => attempt.found?
  | .pick => none

/-- The addresses that the latest of some calls has found; at the start those of the first
resolution. -/
def Balancer.latest (start : List String) (calls : List Call) : List String :=
  (calls.filterMap Call.found?).getLast?.getD start

/-- A balancer with the source of its picks. -/
structure Balancer.Usage where
  balancer : Balancer
  random : Random.Xoshiro

namespace Balancer

/-- The balancer after one more call. -/
def Usage.call (u : Usage) : Call → Usage
  | .resolve attempt => { u with balancer := (u.balancer.resolve attempt.resolution).2 }
  | .pick => ⟨(u.balancer.pick u.random).2.1, (u.balancer.pick u.random).2.2⟩

/-- The balancer after some calls. -/
def Usage.after (u : Usage) (calls : List Call) : Usage :=
  calls.foldl Usage.call u

/-- What holds of a balancer between calls. -/
structure IsKept (target : String) (latest : List String) (b : Balancer) : Prop where
  target_eq : b.target = target
  addresses_eq : b.addresses = latest
  addresses_ne_nil : b.addresses ≠ []
  gauge_eq : b.gauge = b.addresses.length
  /-- The clients are kept by address, one for each. -/
  nodup_keys : (b.clients.map (·.1)).Nodup
  key_mem : ∀ entry ∈ b.clients, entry.1 ∈ b.addresses
  client_address : ∀ entry ∈ b.clients, entry.2.address = entry.1

/-! ## Outcomes of attempts -/

theorem outcome_resolution_eq_ok_iff {target : String} {a : Attempt} {addresses : List String} :
    outcome target a.resolution = .ok addresses ↔ a.found? = some addresses := by
  unfold Attempt.resolution
  by_cases hlate : Attempt.limit < a.delay
  · rw [if_pos hlate, Attempt.found?_eq_some_iff]
    constructor
    · intro h
      cases h
    · intro h
      exact absurd h.1 (Nat.not_le.2 hlate)
  · have hdelay : a.delay ≤ Attempt.limit := Nat.not_lt.1 hlate
    rw [if_neg hlate, Attempt.found?_eq_some_iff]
    cases hanswer : a.answer with
    | error cause => simp [outcome]
    | ok found =>
      cases found with
      | nil =>
        -- An empty answer is an error, and it is no list to keep.
        simp only [outcome, reduceCtorEq, Except.ok.injEq, false_iff, not_and]
        rintro - rfl
        exact not_not_intro rfl
      | cons first rest =>
        simp only [outcome, Except.ok.injEq, hdelay, true_and]
        constructor
        · rintro rfl
          exact ⟨rfl, List.cons_ne_nil first rest⟩
        · rintro ⟨rfl, -⟩
          rfl

theorem outcome_of_late {target : String} {a : Attempt} (hlate : Attempt.limit < a.delay) :
    outcome target a.resolution = .error (.timeout target) := by
  rw [Attempt.resolution, if_pos hlate]
  rfl

theorem outcome_of_failed {target : String} {a : Attempt} {cause : DiscoveryError}
    (hdelay : a.delay ≤ Attempt.limit) (hanswer : a.answer = .error cause) :
    outcome target a.resolution = .error (.discovery cause) := by
  rw [Attempt.resolution, if_neg (Nat.not_lt.2 hdelay), hanswer]
  rfl

theorem outcome_of_empty {target : String} {a : Attempt} (hdelay : a.delay ≤ Attempt.limit)
    (hanswer : a.answer = .ok []) :
    outcome target a.resolution = .error (.noAddresses target) := by
  rw [Attempt.resolution, if_neg (Nat.not_lt.2 hdelay), hanswer]
  rfl

theorem resolve_of_outcome_eq_error {b : Balancer} {r : Resolution} {e : BalancerError}
    (h : outcome b.target r = .error e) : b.resolve r = (.error e, b) := by
  rw [resolve, h]

theorem resolve_of_outcome_eq_ok {b : Balancer} {r : Resolution} {addresses : List String}
    (h : outcome b.target r = .ok addresses) :
    b.resolve r = (.ok addresses.length, b.replace addresses) := by
  rw [resolve, h]

/-- An attempt that finds nothing in time leaves the balancer as it is. -/
theorem resolve_eq_self {b : Balancer} {a : Attempt} (h : a.found? = none) :
    (b.resolve a.resolution).2 = b := by
  cases houtcome : outcome b.target a.resolution with
  | error e => rw [resolve_of_outcome_eq_error houtcome]
  | ok addresses =>
    -- An attempt with an outcome has found its addresses.
    rw [outcome_resolution_eq_ok_iff.1 houtcome] at h
    cases h

theorem resolve_eq_replace {b : Balancer} {a : Attempt} {addresses : List String}
    (h : a.found? = some addresses) : (b.resolve a.resolution).2 = b.replace addresses := by
  rw [resolve_of_outcome_eq_ok (outcome_resolution_eq_ok_iff.2 h)]

/-! ## Calls -/

/-- A pick gives one of the addresses with its client, and leaves what asking for that client
leaves. -/
theorem exists_pick_eq {b : Balancer} (hne : b.addresses ≠ []) (random : Random.Xoshiro) :
    ∃ address ∈ b.addresses, (b.pick random).1 = some (address, (b.client address).1) ∧
      (b.pick random).2.1 = (b.client address).2 := by
  -- The draw stays below the number of addresses, so its position holds one.
  have hposition := Random.drawIndex_lt (List.length_pos_iff.2 hne) random
  have hsome : ¬ b.addresses.isEmpty = true := by simpa using hne
  refine ⟨_, List.getElem_mem hposition, ?_⟩
  unfold Balancer.pick
  rw [if_neg hsome]
  simp only [pickAt, List.getElem?_eq_getElem hposition, and_self]

theorem isKept_create {target : String} {a : Attempt} {b : Balancer}
    (h : create target a.resolution = .ok b) :
    ∃ addresses, a.found? = some addresses ∧ b.IsKept target addresses := by
  obtain ⟨addresses, houtcome, rfl⟩ := create_eq_ok_iff.1 h
  refine ⟨addresses, outcome_resolution_eq_ok_iff.1 houtcome, ?_⟩
  exact
    { target_eq := rfl
      addresses_eq := rfl
      addresses_ne_nil := outcome_ne_nil houtcome
      gauge_eq := rfl
      nodup_keys := List.nodup_nil
      key_mem := fun _ hentry => nomatch hentry
      client_address := fun _ hentry => nomatch hentry }

theorem exists_create_eq_ok_iff {target : String} {a : Attempt} :
    (∃ b, create target a.resolution = .ok b) ↔ ∃ addresses, a.found? = some addresses := by
  constructor
  · rintro ⟨b, h⟩
    obtain ⟨addresses, hfound, -⟩ := isKept_create h
    exact ⟨addresses, hfound⟩
  · rintro ⟨addresses, hfound⟩
    exact ⟨_, create_eq_ok_iff.2 ⟨addresses, outcome_resolution_eq_ok_iff.2 hfound, rfl⟩⟩

section Calls

variable {target : String} {latest : List String} {b : Balancer} (h : b.IsKept target latest)
include h

/-- New addresses take the clients of the old ones that are gone with them. -/
theorem IsKept.replace {addresses : List String} (hne : addresses ≠ []) :
    (b.replace addresses).IsKept target addresses where
  target_eq := h.target_eq
  addresses_eq := rfl
  addresses_ne_nil := hne
  gauge_eq := rfl
  nodup_keys := h.nodup_keys.sublist (List.filter_sublist.map _)
  key_mem _ hentry := List.contains_iff_mem.1 (List.mem_filter.1 hentry).2
  client_address entry hentry := h.client_address entry (List.mem_filter.1 hentry).1

theorem IsKept.resolve (a : Attempt) :
    (b.resolve a.resolution).2.IsKept target (a.found?.getD latest) := by
  cases hfound : a.found? with
  | none =>
    rw [resolve_eq_self hfound]
    exact h
  | some addresses =>
    rw [resolve_eq_replace hfound]
    exact h.replace (Attempt.found?_eq_some_iff.1 hfound).2.2

/-- A client that is found was made for its address. -/
theorem IsKept.client?_eq_some {address : String} {c : PooledClient}
    (hclient : b.client? address = some c) : c.address = address := by
  obtain ⟨entry, hentry, rfl⟩ := Option.map_eq_some_iff.1 hclient
  have hkey := List.find?_some hentry
  rw [beq_iff_eq] at hkey
  rw [h.client_address entry (List.mem_of_find?_eq_some hentry), hkey]

/-- Asking for the client of an address gives one that was made for it, and keeps it. -/
theorem IsKept.client {address : String} (hmem : address ∈ b.addresses) :
    (b.client address).1.address = address ∧ (b.client address).2.IsKept target latest := by
  unfold Balancer.client
  split
  · rename_i c hclient
    exact ⟨h.client?_eq_some hclient, h⟩
  · rename_i hnone
    have hfresh : ∀ entry ∈ b.clients, entry.1 ≠ address := by
      simpa [client?] using hnone
    refine ⟨rfl, ?_⟩
    constructor
    case target_eq => exact h.target_eq
    case addresses_eq => exact h.addresses_eq
    case addresses_ne_nil => exact h.addresses_ne_nil
    case gauge_eq => exact h.gauge_eq
    case nodup_keys =>
      -- A client is only made where none was found.
      refine List.nodup_cons.2 ⟨fun hkey => ?_, h.nodup_keys⟩
      obtain ⟨entry, hentry, heq⟩ := List.mem_map.1 hkey
      exact hfresh entry hentry heq
    case key_mem =>
      intro entry hentry
      rcases List.mem_cons.1 hentry with rfl | hold
      · exact hmem
      · exact h.key_mem entry hold
    case client_address =>
      intro entry hentry
      rcases List.mem_cons.1 hentry with rfl | hold
      · rfl
      · exact h.client_address entry hold

/-- A pick gives an address and a client that was made for it. -/
theorem IsKept.pick (random : Random.Xoshiro) :
    ∃ address c, (b.pick random).1 = some (address, c) ∧ address ∈ b.addresses ∧
      c.address = address ∧ (b.pick random).2.1.IsKept target latest := by
  obtain ⟨address, hmem, hpicked, hnext⟩ := exists_pick_eq h.addresses_ne_nil random
  obtain ⟨hmade, hkept⟩ := h.client hmem
  exact ⟨address, _, hpicked, hmem, hmade, hnext ▸ hkept⟩

end Calls

/-! ## Sequences of calls -/

theorem IsKept.call {target : String} {latest : List String} {u : Usage}
    (h : u.balancer.IsKept target latest) (c : Call) :
    (u.call c).balancer.IsKept target (c.found?.getD latest) := by
  cases c with
  | resolve attempt => exact h.resolve attempt
  | pick =>
    obtain ⟨_, _, -, -, -, hkept⟩ := h.pick u.random
    exact hkept

theorem latest_cons (start : List String) (c : Call) (calls : List Call) :
    latest start (c :: calls) = latest (c.found?.getD start) calls := by
  rw [latest, latest]
  cases hfound : c.found? with
  | none => rw [List.filterMap_cons_none hfound, Option.getD_none]
  | some addresses =>
    rw [List.filterMap_cons_some hfound, List.getLast?_cons, Option.getD_some, Option.getD_some]

/-- Whatever the calls, a balancer keeps to the addresses found last. -/
theorem IsKept.after {target : String} {start : List String} {u : Usage}
    (h : u.balancer.IsKept target start) (calls : List Call) :
    (u.after calls).balancer.IsKept target (latest start calls) := by
  induction calls generalizing u start with
  | nil => exact h
  | cons c later ih =>
    rw [latest_cons]
    exact ih (h.call c)

/-- A balancer comes into being exactly when its first resolution finds addresses in time.  From
then on, after any calls, it keeps to the addresses found last and to clients made for them; a
resolution that is late, fails or finds nothing gives its error and changes nothing; and a pick gives
one of the addresses with a client made for it. -/
theorem keeps_latest_addresses (target : String) (first : Attempt) :
    ((∃ b, create target first.resolution = .ok b) ↔
      first.delay ≤ Attempt.limit ∧ ∃ addresses, first.answer = .ok addresses ∧ addresses ≠ []) ∧
    ∀ b start, create target first.resolution = .ok b → first.answer = .ok start →
      ∀ (random : Random.Xoshiro) (calls : List Call),
        let u := (Usage.mk b random).after calls
        u.balancer.IsKept target (latest start calls) ∧
        (∀ a : Attempt, Attempt.limit < a.delay →
          u.balancer.resolve a.resolution = (.error (.timeout target), u.balancer)) ∧
        (∀ (a : Attempt) cause, a.delay ≤ Attempt.limit → a.answer = .error cause →
          u.balancer.resolve a.resolution = (.error (.discovery cause), u.balancer)) ∧
        (∀ a : Attempt, a.delay ≤ Attempt.limit → a.answer = .ok [] →
          u.balancer.resolve a.resolution = (.error (.noAddresses target), u.balancer)) ∧
        (∀ (a : Attempt) addresses, a.delay ≤ Attempt.limit → a.answer = .ok addresses →
          addresses ≠ [] → (u.balancer.resolve a.resolution).1 = .ok addresses.length) ∧
        ∃ address c, (u.balancer.pick u.random).1 = some (address, c) ∧
          address ∈ u.balancer.addresses ∧ c.address = address := by
  constructor
  · rw [exists_create_eq_ok_iff]
    simp only [Attempt.found?_eq_some_iff, exists_and_left]
  · intro b start hcreate hstart random calls u
    obtain ⟨addresses, hfound, hkept⟩ := isKept_create hcreate
    obtain ⟨-, hanswer, -⟩ := Attempt.found?_eq_some_iff.1 hfound
    cases hstart.symm.trans hanswer
    have hkept : u.balancer.IsKept target (latest start calls) :=
      IsKept.after (u := ⟨b, random⟩) hkept calls
    have htarget := hkept.target_eq
    refine ⟨hkept, fun a hlate => ?_, fun a cause hdelay hanswer => ?_,
      fun a hdelay hanswer => ?_, fun a addresses hdelay hanswer hne => ?_, ?_⟩
    · exact resolve_of_outcome_eq_error (htarget ▸ outcome_of_late hlate)
    · exact resolve_of_outcome_eq_error (htarget ▸ outcome_of_failed hdelay hanswer)
    · exact resolve_of_outcome_eq_error (htarget ▸ outcome_of_empty hdelay hanswer)
    · have hfound := Attempt.found?_eq_some_iff.2 ⟨hdelay, hanswer, hne⟩
      rw [resolve_of_outcome_eq_ok (outcome_resolution_eq_ok_iff.2 hfound)]
    · obtain ⟨address, c, hpick, hmem, hmade, -⟩ := hkept.pick u.random
      exact ⟨address, c, hpick, hmem, hmade⟩

/-- A late list and an empty one are passed over; a later one takes effect. -/
theorem keeps_latest_addresses_refreshed :
    ∃ b, create "backend" (Attempt.mk 3 (.ok ["a:80", "b:80"])).resolution = .ok b ∧
      let u := (Usage.mk b ⟨1, 2, 3, 4⟩).after [.pick, .resolve ⟨11, .ok ["c:80"]⟩,
        .resolve ⟨0, .ok ["b:80"]⟩, .pick, .resolve ⟨1, .ok []⟩]
      u.balancer.IsKept "backend" ["b:80"] ∧
        ∃ c, (u.balancer.pick u.random).1 = some ("b:80", c) ∧ c.address = "b:80" := by
  have hcreate : create "backend" (Attempt.mk 3 (.ok ["a:80", "b:80"])).resolution =
      .ok ⟨"backend", ["a:80", "b:80"], [], 0, 2⟩ := rfl
  obtain ⟨hkept, -, -, -, -, address, c, hpick, hmem, hmade⟩ :=
    (keeps_latest_addresses "backend" ⟨3, .ok ["a:80", "b:80"]⟩).2 _ _ hcreate rfl ⟨1, 2, 3, 4⟩
      [.pick, .resolve ⟨11, .ok ["c:80"]⟩, .resolve ⟨0, .ok ["b:80"]⟩, .pick,
        .resolve ⟨1, .ok []⟩]
  refine ⟨_, hcreate, hkept, ?_⟩
  rw [hkept.addresses_eq] at hmem
  cases List.mem_singleton.1 hmem
  exact ⟨c, hpick, hmade⟩

end Balancer
end MetricLoad
