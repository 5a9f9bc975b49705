import MetricLoad.Proofs.Balancer.Usage
import Mathlib.Data.List.Basic

/-!
# One client while an address stays resolved

The history of a balancer lists its calls, each with what it gives and how many clients it makes.
A call that finds addresses in time, but not a certain one, omits that address, and such calls cut
the history into stretches.  Within a stretch all picks of the address give one client, which the
first of them makes; picks in different stretches give different clients.

`Turn` says once what a call can do.  What the cache holds for an address then follows from turn to
turn: a client stays until its address is omitted, and every client that is made later has a greater
number, so a client never comes back.
-/

namespace MetricLoad.Balancer

/-! ## Histories -/

/-- A call with what it gives and how many clients it makes. -/
structure Event where
  call : Call
  picked : Option (String × PooledClient)
  made : Nat

namespace Event

/-- Whether a call finds addresses that the given one is not among. -/
def omits (e : Event) (address : String) : Bool :=
  match e.call.found? with
  | none => false
  | some addresses => !addresses.contains address

def picks (e : Event) (address : String) : Bool :=
  e.picked.any (·.1 == address)

/-- How many clients a call makes for an address. -/
def madeFor (e : Event) (address : String) : Nat :=
  if e.picked.any (·.2.address == address) then e.made else 0

end Event

def Usage.picked (u : Usage) : Call → Option (String × PooledClient)
  | .resolve _ => none
  | .pick => (u.balancer.pick u.random).1

/-- One more call; clients are numbered, so the numbers that it uses up are the clients it makes. -/
def Usage.event (u : Usage) (c : Call) : Event :=
  ⟨c, u.picked c, (u.call c).balancer.created - u.balancer.created⟩

/-- The calls with their results, in order. -/
def Usage.history : Usage → List Call → List Event
  | _, [] => []
  | u, c :: later => u.event c :: (u.call c).history later

/-! ## The client of an address -/

/-- The balancer with a new client. -/
def withClient (b : Balancer) (address : String) : Balancer :=
  { b with clients := (address, ⟨address, b.created⟩) :: b.clients, created := b.created + 1 }

theorem client_of_some {b : Balancer} {address : String} {c : PooledClient}
    (h : b.client? address = some c) : b.client address = (c, b) := by
  rw [client, h]

theorem client_of_none {b : Balancer} {address : String} (h : b.client? address = none) :
    b.client address = (⟨address, b.created⟩, b.withClient address) := by
  rw [client, h]
  rfl

@[simp]
theorem client?_withClient_self (b : Balancer) (address : String) :
    (b.withClient address).client? address = some ⟨address, b.created⟩ := by
  simp [client?, withClient]

theorem client?_withClient_of_ne (b : Balancer) {address other : String} (h : address ≠ other) :
    (b.withClient address).client? other = b.client? other := by
  simp [client?, withClient, h]

theorem client?_replace (b : Balancer) (addresses : List String) (address : String) :
    (b.replace addresses).client? address =
      if addresses.contains address then b.client? address else none := by
  have hfind : (b.clients.filter fun entry => addresses.contains entry.1).find?
      (fun entry => entry.1 == address) =
      b.clients.find? fun entry => addresses.contains address && entry.1 == address := by
    rw [List.find?_filter]
    congr 1
    funext entry
    by_cases hkey : entry.1 = address
    · simp [hkey]
    · simp [hkey]
  rw [client?, replace, hfind]
  cases addresses.contains address with
  | true => simp [client?]
  | false => simp

/-! ## What a call can do -/

/-- A call on a balancer, with the balancer after it. -/
inductive Turn (b : Balancer) : Event → Balancer → Prop
  | keep {a : Attempt} (hfound : a.found? = none) : Turn b ⟨.resolve a, none, 0⟩ b
  | replace {a : Attempt} {addresses : List String} (hfound : a.found? = some addresses) :
      Turn b ⟨.resolve a, none, 0⟩ (b.replace addresses)
  | reuse {address : String} {c : PooledClient} (hclient : b.client? address = some c) :
      Turn b ⟨.pick, some (address, c), 0⟩ b
  | make {address : String} (hclient : b.client? address = none) :
      Turn b ⟨.pick, some (address, ⟨address, b.created⟩), 1⟩ (b.withClient address)

theorem turn_call {target : String} {latest : List String} {u : Usage}
    (h : u.balancer.IsKept target latest) (c : Call) :
    Turn u.balancer (u.event c) (u.call c).balancer := by
  cases c with
  | resolve a =>
    cases hfound : a.found? with
    | none =>
      have hcall : (u.call (.resolve a)).balancer = u.balancer := resolve_eq_self hfound
      rw [Usage.event, hcall, Nat.sub_self]
      exact .keep hfound
    | some addresses =>
      have hcall : (u.call (.resolve a)).balancer = u.balancer.replace addresses :=
        resolve_eq_replace hfound
      have hmade : (u.balancer.replace addresses).created - u.balancer.created = 0 :=
        Nat.sub_self _
      rw [Usage.event, hcall, hmade]
      exact .replace hfound
  | pick =>
    obtain ⟨address, -, hpicked, hnext⟩ := exists_pick_eq h.addresses_ne_nil u.random
    have hcall : (u.call .pick).balancer = (u.balancer.client address).2 := hnext
    have hgiven : u.picked .pick = some (address, (u.balancer.client address).1) := hpicked
    rw [Usage.event, hcall, hgiven]
    cases hclient : u.balancer.client? address with
    | some c =>
      rw [client_of_some hclient, Nat.sub_self]
      exact .reuse hclient
    | none =>
      have hmade : (u.balancer.withClient address).created - u.balancer.created = 1 :=
        Nat.add_sub_cancel_left _ _
      rw [client_of_none hclient, hmade]
      exact .make hclient

namespace Turn

variable {b next : Balancer} {e : Event} {address : String} {c : PooledClient}

/-- A client stays as long as its address is not omitted. -/
theorem client?_eq_some (h : Turn b e next) (hclient : b.client? address = some c)
    (homits : e.omits address = false) : next.client? address = some c := by
  cases h with
  | keep hfound => exact hclient
  | @replace a addresses hfound =>
    have hmem : addresses.contains address = true := by
      simpa [Event.omits, Call.found?, hfound] using homits
    rw [client?_replace, if_pos hmem, hclient]
  | reuse hknown => exact hclient
  | @make made hnone =>
    -- A new client is only made for an address without one.
    have hne : made ≠ address := by
      rintro rfl
      rw [hclient] at hnone
      cases hnone
    rw [client?_withClient_of_ne b hne, hclient]

theorem client?_eq_none (h : Turn b e next) (homits : e.omits address = true) :
    next.client? address = none := by
  cases h with
  | keep hfound => simp [Event.omits, Call.found?, hfound] at homits
  | @replace a addresses hfound =>
    have hmem : addresses.contains address = false := by
      simpa [Event.omits, Call.found?, hfound] using homits
    rw [client?_replace, hmem]
    rfl
  | reuse hknown => cases homits
  | make hnone => cases homits

/-- A pick gives the client that is then kept for the address. -/
theorem client?_of_picked (h : Turn b e next) (hpicked : e.picked = some (address, c)) :
    next.client? address = some c := by
  cases h with
  | keep hfound => cases hpicked
  | replace hfound => cases hpicked
  | reuse hknown =>
    cases hpicked
    exact hknown
  | make hnone =>
    cases hpicked
    exact client?_withClient_self b address

theorem omits_of_picked (h : Turn b e next) (hpicked : e.picked = some (address, c))
    (other : String) : e.omits other = false := by
  cases h with
  | keep hfound => cases hpicked
  | replace hfound => cases hpicked
  | reuse hknown => rfl
  | make hnone => rfl

theorem created_eq (h : Turn b e next) : next.created = b.created + e.made := by
  cases h <;> rfl

theorem made_eq_zero (h : Turn b e next) (hpicked : e.picked = none) : e.made = 0 := by
  cases h with
  | keep hfound => rfl
  | replace hfound => rfl
  | reuse hknown => cases hpicked
  | make hnone => cases hpicked

/-- A client is made exactly where an address without one is picked. -/
theorem madeFor_eq (h : Turn b e next) (address : String) :
    e.madeFor address = if e.picks address && (b.client? address).isNone then 1 else 0 := by
  cases h with
  | keep hfound => rfl
  | replace hfound => rfl
  | @reuse picked c hknown =>
    have hmade : (Event.mk .pick (some (picked, c)) 0).madeFor address = 0 := ite_self 0
    rw [hmade]
    by_cases hpicked : picked = address
    · subst hpicked
      simp [hknown]
    · simp [Event.picks, hpicked]
  | @make picked hnone =>
    by_cases hpicked : picked = address
    · subst hpicked
      simp [Event.madeFor, Event.picks, hnone]
    · simp [Event.madeFor, Event.picks, hpicked]

/-- Between omissions, an address is without a client as long as it is not picked. -/
theorem isNone_client? (h : Turn b e next) (homits : e.omits address = false) :
    (next.client? address).isNone = ((b.client? address).isNone && !e.picks address) := by
  cases hclient : b.client? address with
  | some c => rw [h.client?_eq_some hclient homits]; rfl
  | none =>
    cases h with
    | keep hfound => rw [hclient]; rfl
    | replace hfound => rw [client?_replace, hclient, ite_self]; rfl
    | @reuse picked c hknown =>
      have hne : picked ≠ address := by
        rintro rfl
        rw [hclient] at hknown
        cases hknown
      simp [hclient, Event.picks, hne]
    | @make picked hnone =>
      by_cases hpicked : picked = address
      · subst hpicked
        simp [Event.picks]
      · simp [Event.picks, hpicked, hclient, client?_withClient_of_ne b hpicked]

end Turn

/-! ## What the numbers of clients say -/

/-- Clients belong to their addresses, and their numbers are used up. -/
def IsNumbered (b : Balancer) : Prop :=
  ∀ address c, b.client? address = some c → c.address = address ∧ c.serial < b.created

/-- The client of an address, if there is one, is none of the first `count`. -/
def MadeSince (b : Balancer) (count : Nat) (address : String) : Prop :=
  ∀ c, b.client? address = some c → count ≤ c.serial

namespace Turn

variable {b next : Balancer} {e : Event}

/-- A client was there before or has the number that is next. -/
theorem client?_or_made (h : Turn b e next) {address : String} {c : PooledClient}
    (hclient : next.client? address = some c) :
    b.client? address = some c ∨ c = ⟨address, b.created⟩ ∧ next.created = b.created + 1 := by
  cases h with
  | keep hfound => exact .inl hclient
  | replace hfound =>
    rw [client?_replace] at hclient
    exact .inl (Option.ite_none_right_eq_some.1 hclient).2
  | reuse hknown => exact .inl hclient
  | @make made hnone =>
    by_cases hmade : made = address
    · subst hmade
      rw [client?_withClient_self] at hclient
      exact .inr ⟨(Option.some_inj.1 hclient).symm, rfl⟩
    · rw [client?_withClient_of_ne b hmade] at hclient
      exact .inl hclient

theorem isNumbered (h : Turn b e next) (hb : b.IsNumbered) : next.IsNumbered := by
  intro address c hclient
  rcases h.client?_or_made hclient with hold | ⟨rfl, hcreated⟩
  · obtain ⟨haddress, hserial⟩ := hb address c hold
    have hcreated : b.created ≤ next.created := h.created_eq ▸ Nat.le_add_right _ _
    exact ⟨haddress, Nat.lt_of_lt_of_le hserial hcreated⟩
  · rw [hcreated]
    exact ⟨rfl, Nat.lt_succ_self _⟩

theorem madeSince (h : Turn b e next) {count : Nat} (hcount : count ≤ b.created)
    {address : String} (hb : b.MadeSince count address) : next.MadeSince count address := by
  intro c hclient
  rcases h.client?_or_made hclient with hold | ⟨rfl, -⟩
  · exact hb c hold
  · exact hcount

end Turn

/-! ## Runs -/

/-- Some calls one after the other, with the balancer after the last. -/
inductive Run : Balancer → List Event → Balancer → Prop
  | nil {b : Balancer} : Run b [] b
  | cons {b next last : Balancer} {e : Event} {later : List Event} (hturn : Turn b e next)
      (hlater : Run next later last) : Run b (e :: later) last

theorem run_history {target : String} {latest : List String} {u : Usage}
    (h : u.balancer.IsKept target latest) (calls : List Call) :
    Run u.balancer (u.history calls) (u.after calls).balancer := by
  induction calls generalizing u latest with
  | nil => exact .nil
  | cons c later ih => exact .cons (turn_call h c) (ih (h.call c))

theorem map_call_history (u : Usage) (calls : List Call) :
    (u.history calls).map (·.call) = calls := by
  induction calls generalizing u with
  | nil => rfl
  | cons c later ih => exact congrArg (c :: ·) (ih (u.call c))

namespace Run

variable {b last : Balancer} {events : List Event} {address : String}

theorem exists_of_append {first second : List Event} (h : Run b (first ++ second) last) :
    ∃ middle, Run b first middle ∧ Run middle second last := by
  induction first generalizing b with
  | nil => exact ⟨b, .nil, h⟩
  | cons e first ih =>
    cases h with
    | cons hturn hlater =>
      obtain ⟨middle, hfirst, hsecond⟩ := ih hlater
      exact ⟨middle, .cons hturn hfirst, hsecond⟩

theorem created_eq (h : Run b events last) :
    last.created = b.created + (events.map (·.made)).sum := by
  induction h with
  | nil => rfl
  | cons hturn _ ih => rw [ih, hturn.created_eq, List.map_cons, List.sum_cons, Nat.add_assoc]

theorem isNumbered (h : Run b events last) (hb : b.IsNumbered) : last.IsNumbered := by
  induction h with
  | nil => exact hb
  | cons hturn _ ih => exact ih (hturn.isNumbered hb)

theorem madeSince (h : Run b events last) {count : Nat} (hcount : count ≤ b.created)
    (hb : b.MadeSince count address) : last.MadeSince count address := by
  induction h with
  | nil => exact hb
  | cons hturn _ ih =>
    exact ih (hturn.created_eq ▸ Nat.le_add_right_of_le hcount) (hturn.madeSince hcount hb)

theorem client?_eq_some (h : Run b events last) {c : PooledClient}
    (hclient : b.client? address = some c) (homits : ∀ e ∈ events, e.omits address = false) :
    last.client? address = some c := by
  induction h with
  | nil => exact hclient
  | cons hturn _ ih =>
    have hnext := hturn.client?_eq_some hclient (homits _ List.mem_cons_self)
    exact ih hnext fun e he => homits e (List.mem_cons_of_mem _ he)

/-- After an omission, the address has a client only if it was made later. -/
theorem madeSince_of_omits (h : Run b events last) {e : Event} (he : e ∈ events)
    (homits : e.omits address = true) : last.MadeSince b.created address := by
  obtain ⟨before, after, rfl⟩ := List.append_of_mem he
  obtain ⟨middle, hbefore, hrest⟩ := h.exists_of_append
  cases hrest with
  | cons hturn hafter =>
    have hcount : b.created ≤ middle.created := hbefore.created_eq ▸ Nat.le_add_right _ _
    refine hafter.madeSince (hturn.created_eq ▸ Nat.le_add_right_of_le hcount) fun c hclient => ?_
    rw [hturn.client?_eq_none homits] at hclient
    cases hclient

/-- Two picks give one client exactly if their address is not omitted between them. -/
theorem client_eq_iff {first second : Event} {between after : List Event} {c d : PooledClient}
    (hb : b.IsNumbered) (h : Run b (first :: (between ++ second :: after)) last)
    (hfirst : first.picked = some (address, c)) (hsecond : second.picked = some (address, d)) :
    c = d ↔ ∀ e ∈ between, e.omits address = false := by
  obtain _ | ⟨hturn, hlater⟩ := h
  rename_i start
  obtain ⟨middle, hbetween, hrest⟩ := hlater.exists_of_append
  obtain _ | ⟨hpick, -⟩ := hrest
  rename_i next
  have hstart : start.client? address = some c := hturn.client?_of_picked hfirst
  have hend : next.client? address = some d := hpick.client?_of_picked hsecond
  have hkept := hpick.omits_of_picked hsecond address
  constructor
  · rintro rfl e he
    by_contra homits
    rw [Bool.not_eq_false] at homits
    -- The client of the second pick would be younger than itself.
    have holder := (hturn.isNumbered hb address c hstart).2
    have hyounger := (hbetween.madeSince_of_omits he homits)
    have hcount : start.created ≤ middle.created := hbetween.created_eq ▸ Nat.le_add_right _ _
    exact absurd (hpick.madeSince hcount hyounger c hend) (Nat.not_le.2 holder)
  · intro homits
    have hmiddle := hbetween.client?_eq_some hstart homits
    exact Option.some_inj.1 ((hpick.client?_eq_some hmiddle hkept).symm.trans hend)

/-- In the stretches of an address a client is made where the address is picked; in the first one
only if there was none before. -/
theorem exists_splitOnP (h : Run b events last) (address : String) :
    ∃ head tail, events.splitOnP (·.omits address) = head :: tail ∧
      (head.map (·.madeFor address)).sum =
        (if head.any (·.picks address) && (b.client? address).isNone then 1 else 0) ∧
      ∀ stretch ∈ tail, (stretch.map (·.madeFor address)).sum =
        if stretch.any (·.picks address) then 1 else 0 := by
  induction h with
  | nil => exact ⟨[], [], List.splitOnP_nil, rfl, fun _ hmem => nomatch hmem⟩
  | @cons b next last e later hturn hlater ih =>
    obtain ⟨head, tail, hsplit, hhead, htail⟩ := ih
    rw [List.splitOnP_cons_eq_if_modifyHead, hsplit]
    cases homits : e.omits address with
    | true =>
      -- The next stretch begins without a client.
      rw [hturn.client?_eq_none homits, Option.isNone_none, Bool.and_true] at hhead
      refine ⟨[], head :: tail, if_pos rfl, rfl, fun stretch hmem => ?_⟩
      rcases List.mem_cons.1 hmem with rfl | hmem
      · exact hhead
      · exact htail stretch hmem
    | false =>
      refine ⟨e :: head, tail, if_neg Bool.false_ne_true, ?_, htail⟩
      rw [hturn.isNone_client? homits] at hhead
      rw [List.map_cons, List.sum_cons, hhead, hturn.madeFor_eq, List.any_cons]
      cases e.picks address <;> cases (b.client? address).isNone <;>
        cases head.any (·.picks address) <;> rfl

end Run

/-! ## Histories of a balancer -/

/-- How the clients of a history are shared. -/
structure SharesClients (events : List Event) : Prop where
  /-- Only picks make clients. -/
  made_of_not_picked : ∀ e ∈ events, e.picked = none → e.made = 0
  client_address : ∀ e ∈ events, ∀ address c, e.picked = some (address, c) → c.address = address
  client_eq_iff : ∀ before first between second after address c d,
    events = before ++ first :: (between ++ second :: after) →
    first.picked = some (address, c) → second.picked = some (address, d) →
      (c = d ↔ ∀ e ∈ between, e.omits address = false)
  /-- One client is made in every stretch in which the address is picked. -/
  made_eq : ∀ address, ∀ stretch ∈ events.splitOnP (·.omits address),
    (stretch.map (·.madeFor address)).sum = if stretch.any (·.picks address) then 1 else 0

theorem Run.sharesClients {b last : Balancer} {events : List Event} (hb : b.clients = [])
    (h : Run b events last) : SharesClients events := by
  have hnone : ∀ address, b.client? address = none := fun address => by rw [client?, hb]; rfl
  have hnumbered : b.IsNumbered := by
    intro address c hclient
    rw [hnone] at hclient
    cases hclient
  -- What holds of single events is read off the turn that each of them is.
  have hturns : ∀ e ∈ events, ∃ now next, now.IsNumbered ∧ Turn now e next := by
    intro e he
    obtain ⟨before, after, rfl⟩ := List.append_of_mem he
    obtain ⟨now, hbefore, hrest⟩ := h.exists_of_append
    cases hrest with
    | cons hturn _ => exact ⟨now, _, hbefore.isNumbered hnumbered, hturn⟩
  constructor
  case made_of_not_picked =>
    intro e he hpicked
    obtain ⟨_, _, -, hturn⟩ := hturns e he
    exact hturn.made_eq_zero hpicked
  case client_address =>
    intro e he address c hpicked
    obtain ⟨_, _, hnow, hturn⟩ := hturns e he
    exact (hturn.isNumbered hnow address c (hturn.client?_of_picked hpicked)).1
  case client_eq_iff =>
    rintro before first between second after address c d rfl hfirst hsecond
    obtain ⟨middle, hbefore, hrest⟩ := h.exists_of_append
    exact hrest.client_eq_iff (hbefore.isNumbered hnumbered) hfirst hsecond
  case made_eq =>
    intro address stretch hmem
    obtain ⟨head, tail, hsplit, hhead, htail⟩ := h.exists_splitOnP address
    rw [hnone, Option.isNone_none, Bool.and_true] at hhead
    rw [hsplit] at hmem
    rcases List.mem_cons.1 hmem with rfl | hmem
    · exact hhead
    · exact htail stretch hmem

/-- Whatever is called on a balancer that has come into being, two picks of an address give one and
the same client exactly if no call between them has found addresses without it.  For every address,
each stretch between such calls makes one client if the address is picked in it and none if not, and
no other clients are ever made. -/
theorem one_client_while_resolved {target : String} {first : Attempt} {b : Balancer}
    (hcreate : create target first.resolution = .ok b) (random : Random.Xoshiro)
    (calls : List Call) :
    let u : Usage := ⟨b, random⟩
    (u.history calls).map (·.call) = calls ∧
      (u.after calls).balancer.created = ((u.history calls).map (·.made)).sum ∧
      SharesClients (u.history calls) := by
  intro u
  obtain ⟨addresses, -, hkept⟩ := isKept_create hcreate
  have hnew : b.clients = [] ∧ b.created = 0 := by
    obtain ⟨_, -, rfl⟩ := create_eq_ok_iff.1 hcreate
    exact ⟨rfl, rfl⟩
  have hrun : Run b (u.history calls) (u.after calls).balancer := run_history (u := u) hkept calls
  refine ⟨map_call_history u calls, ?_, hrun.sharesClients hnew.1⟩
  rw [hrun.created_eq, hnew.2, Nat.zero_add]

/-- An address is picked twice around a late list without it; then it is gone, comes back and is
picked once more. -/
def returningCalls : List Call :=
  [.pick, .resolve ⟨11, .ok ["b:80"]⟩, .pick, .resolve ⟨0, .ok ["b:80"]⟩,
    .resolve ⟨1, .ok ["a:80"]⟩, .pick]

theorem one_client_while_resolved_returning :
    ∃ b, create "backend" (Attempt.mk 0 (.ok ["a:80"])).resolution = .ok b ∧
      ((Usage.mk b ⟨1, 2, 3, 4⟩).after returningCalls).balancer.created = 2 ∧
      SharesClients ((Usage.mk b ⟨1, 2, 3, 4⟩).history returningCalls) := by
  have hcreate : create "backend" (Attempt.mk 0 (.ok ["a:80"])).resolution =
      .ok ⟨"backend", ["a:80"], [], 0, 1⟩ := rfl
  obtain ⟨-, hcreated, hshares⟩ :=
    one_client_while_resolved hcreate ⟨1, 2, 3, 4⟩ returningCalls
  refine ⟨_, hcreate, ?_, hshares⟩
  rw [hcreated]
  decide

end MetricLoad.Balancer
