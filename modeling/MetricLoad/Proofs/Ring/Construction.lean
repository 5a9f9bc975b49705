import MetricLoad.Proofs.Ring.Lookup
import MetricLoad.Proofs.Ring.Tokens
import Mathlib.Data.List.Rotate

/-!
# What building a ring establishes

Building decides about every list of instances.  No ring comes out when no owners are asked for or
when nobody contributes a token; otherwise the tokens of the ring are the claimed ones, in
increasing order, each with its first claimant.  The generation of tokens may not come to an end,
and then building does not either; instances that list their tokens need none.

A lookup makes room for its owners, goes around the tokens by places counted modulo their number,
from a place that splits the tokens below the key from the others, and takes the address of each
owner out of the configured ones.  In a ring that has been built there is a token to begin with, and
none of these accesses is out of range; room is all that a lookup can lack.
-/

namespace MetricLoad.Ring

variable {tokenCount : Nat} {instances : List Instance} {r : Ring}

/-! ## Claims -/

/-- An instance claims the tokens that it lists, and generated ones when it lists none. -/
def Claims (tokenCount : Nat) (i : Instance) (token : UInt32) : Prop :=
  token ∈ i.tokens ∨ i.tokens = [] ∧
    ∃ generated, generateTokens? i.address tokenCount = some generated ∧ token ∈ generated

/-- An instance contributes tokens when it lists some or is to generate some. -/
def Contributes (tokenCount : Nat) (i : Instance) : Prop :=
  i.tokens ≠ [] ∨ tokenCount ≠ 0

/-- The tokens of every instance are known: it lists some, or their generation ends. -/
def GenerationEnds (tokenCount : Nat) (instances : List Instance) : Prop :=
  ∀ i ∈ instances, i.tokens = [] → (generateTokens? i.address tokenCount).isSome

theorem mem_claims_iff {i : Instance} {token : UInt32} :
    token ∈ claims tokenCount i ↔ Claims tokenCount i token := by
  unfold claims claims? Claims
  by_cases htokens : i.tokens = []
  · cases generateTokens? i.address tokenCount <;> simp [htokens]
  · simp [htokens]

theorem generationEnds_iff :
    GenerationEnds tokenCount instances ↔ ∀ i ∈ instances, (claims? tokenCount i).isSome := by
  simp only [GenerationEnds, isSome_claims?_iff]

/-- When more tokens are asked for than there are, generation ends only where there is none. -/
theorem generationEnds_iff_of_lt (h : 2 ^ 32 < tokenCount) :
    GenerationEnds tokenCount instances ↔ ∀ i ∈ instances, i.tokens ≠ [] := by
  simp [GenerationEnds, generateTokens?_eq_none h]

/-- Where nobody contributes, there is nothing to generate. -/
theorem generationEnds_of_not_contributes (h : ¬∃ i ∈ instances, Contributes tokenCount i) :
    GenerationEnds tokenCount instances := by
  intro i hi _
  have hcount : tokenCount = 0 := by
    by_contra hcount
    exact h ⟨i, hi, .inr hcount⟩
  rw [hcount, generateTokens?, drawTokens_of_le (Nat.zero_le _)]
  rfl

theorem GenerationEnds.exists_claims_iff (hends : GenerationEnds tokenCount instances) :
    (∃ i ∈ instances, claims tokenCount i ≠ []) ↔ ∃ i ∈ instances, Contributes tokenCount i :=
  exists_congr fun i => and_congr_right fun hi =>
    claims_ne_nil_iff (generationEnds_iff.1 hends i hi)

/-! ## Outcomes -/

theorem build_eq_ok_iff {replicationFactor : Nat} :
    (∃ r, build instances replicationFactor tokenCount = .ok r) ↔
      replicationFactor ≠ 0 ∧ (∃ i ∈ instances, Contributes tokenCount i) ∧
        GenerationEnds tokenCount instances := by
  rw [exists_build_eq_ok_iff, ← generationEnds_iff]
  refine and_congr_right fun _ => and_comm.trans (and_congr_left fun hends => ?_)
  exact hends.exists_claims_iff

/-- Building fails for a cause exactly when this cause is the first one that applies. -/
theorem build_eq_error_iff {replicationFactor : Nat} {cause : RingError} :
    build instances replicationFactor tokenCount = .error cause ↔
      match cause with
      | .zeroReplicationFactor => replicationFactor = 0
      | .empty => replicationFactor ≠ 0 ∧ ¬∃ i ∈ instances, Contributes tokenCount i
      | .endlessGeneration => replicationFactor ≠ 0 ∧ ¬GenerationEnds tokenCount instances := by
  have hends : GenerationEnds tokenCount instances ↔
      (claimsFrom? tokenCount 0 instances).isSome :=
    generationEnds_iff.trans isSome_claimsFrom?_iff.symm
  unfold build
  by_cases hfactor : replicationFactor = 0
  · cases cause <;> simp [hfactor]
  rw [if_neg (by simpa using hfactor)]
  cases hclaims : claimsFrom? tokenCount 0 instances with
  | none =>
    have hendless : ¬GenerationEnds tokenCount instances := by simp [hends, hclaims]
    -- Somebody is to generate tokens, so the list is not one that contributes none.
    have hcontributes : ∃ i ∈ instances, Contributes tokenCount i :=
      by_contra fun hnone => hendless (generationEnds_of_not_contributes hnone)
    cases cause <;> simp [hfactor, hendless, hcontributes]
  | some all =>
    have hknown : GenerationEnds tokenCount instances := by simp [hends, hclaims]
    rw [← hknown.exists_claims_iff, ← claimsFrom?_ne_nil_iff hclaims]
    cases all <;> cases cause <;> simp [hfactor, hknown]

/-! ## The ring that is built -/

/-- A ring holds the claims of instances: its tokens are the claimed ones in increasing order, the
owner of a token is the first of its claimants, and the addresses are those of all instances. -/
structure HoldsClaims (tokenCount : Nat) (instances : List Instance) (r : Ring) : Prop where
  increasing : r.tokens.Pairwise fun a b => a.token < b.token
  claimed : ∀ token, (∃ owner, ⟨token, owner⟩ ∈ r.tokens) ↔
    ∃ i ∈ instances, Claims tokenCount i token
  owner_lt : ∀ claim ∈ r.tokens, claim.owner < instances.length
  owner_claims : ∀ claim ∈ r.tokens, ∃ i, instances[claim.owner]? = some i ∧
    Claims tokenCount i claim.token
  owner_first : ∀ claim ∈ r.tokens, ∀ position i, instances[position]? = some i →
    Claims tokenCount i claim.token → claim.owner ≤ position
  addresses_eq : r.addresses = instances.map (·.address)

theorem exists_firstClaimant?_iff {token : UInt32} :
    (∃ position, firstClaimant? tokenCount instances token = some position) ↔
      ∃ i ∈ instances, Claims tokenCount i token := by
  rw [← Option.isSome_iff_exists, firstClaimant?, List.findIdx?_isSome, List.any_eq_true]
  simp only [List.contains_iff_mem, mem_claims_iff]

theorem IsRingOf.holdsClaims (hr : r.IsRingOf tokenCount instances) :
    r.HoldsClaims tokenCount instances := by
  have hfirst (claim : OwnedToken) (hclaim : claim ∈ r.tokens) :=
    firstClaimant?_eq_some_iff.1 ((hr.mem_tokens claim).1 hclaim)
  constructor
  case increasing => exact hr.increasing
  case claimed =>
    intro token
    rw [← exists_firstClaimant?_iff]
    exact exists_congr fun owner => hr.mem_tokens ⟨token, owner⟩
  case owner_lt => exact fun claim hclaim => firstClaimant?_lt ((hr.mem_tokens claim).1 hclaim)
  case owner_claims =>
    intro claim hclaim
    obtain ⟨⟨i, hi, htoken⟩, -⟩ := hfirst claim hclaim
    exact ⟨i, hi, mem_claims_iff.1 htoken⟩
  case owner_first =>
    intro claim hclaim position i hi hclaims
    exact (hfirst claim hclaim).2 position i hi (mem_claims_iff.2 hclaims)
  case addresses_eq => exact hr.addresses_eq

/-! ## Lookups by places -/

/-- What a lookup by places runs into. -/
inductive LookupFault
  | noTokens
  | noRoom
  | placeOutOfRange (place : Nat)
  | ownerOutOfRange (owner : Nat)

/-- The place that splits the tokens below a key from the others. -/
structure IsPartitionPoint (r : Ring) (key : UInt32) (place : Nat) : Prop where
  le_length : place ≤ r.tokens.length
  below : ∀ claim ∈ r.tokens.take place, claim.token < key
  not_below : ∀ claim ∈ r.tokens.drop place, key ≤ claim.token

/-- The token at a place that is counted around the ring. -/
def tokenAt (r : Ring) (place : Nat) : Except LookupFault OwnedToken :=
  match r.tokens[place % r.tokens.length]? with
  | some claim => .ok claim
  | none => .error (.placeOutOfRange (place % r.tokens.length))

def addressOf (r : Ring) (owner : Nat) : Except LookupFault String :=
  match r.addresses[owner]? with
  | some address => .ok address
  | none => .error (.ownerOutOfRange owner)

/-- Collects different owners from a place on, over a number of tokens at most. -/
def collectAround (r : Ring) (owners : List Nat) (place : Nat) :
    Nat → Except LookupFault (List Nat)
  | 0 => .ok owners
  | left + 1 =>
    if owners.length == r.replicationFactor then .ok owners
    else do
      let claim ← r.tokenAt place
      if owners.contains claim.owner then r.collectAround owners (place + 1) left
      else r.collectAround (owners ++ [claim.owner]) (place + 1) left

/-- The addresses of the owners that are met on the way once around the ring from a place. -/
def getAround (r : Ring) (place : Nat) : Except LookupFault (List String) :=
  if r.tokens.isEmpty then .error .noTokens
  else if ownerCapacity < r.replicationFactor then .error .noRoom
  else do
    let owners ← r.collectAround [] place r.tokens.length
    owners.mapM r.addressOf

/-- What lies on the two sides of a partition point is what a walk takes from the tokens. -/
theorem IsPartitionPoint.walk_eq_rotate {key : UInt32} {place : Nat}
    (hplace : r.IsPartitionPoint key place) : r.walk key = r.tokens.rotate place := by
  have hbelow : ∀ claim ∈ r.tokens.take place, decide (claim.token < key) = true :=
    fun claim hclaim => decide_eq_true (hplace.below claim hclaim)
  -- If there is a token at the place, it is not below the key and ends the first stretch.
  have hstop : (r.tokens.drop place).takeWhile (·.token < key) = [] ∧
      (r.tokens.drop place).dropWhile (·.token < key) = r.tokens.drop place := by
    cases hdrop : r.tokens.drop place with
    | nil => exact ⟨rfl, rfl⟩
    | cons first rest =>
      have hfirst : ¬decide (first.token < key) = true := by
        have hle := hplace.not_below first (hdrop ▸ List.mem_cons_self)
        simpa using hle
      exact ⟨List.takeWhile_cons_of_neg hfirst, List.dropWhile_cons_of_neg hfirst⟩
  have htake : r.tokens.takeWhile (·.token < key) = r.tokens.take place := by
    conv => lhs; rw [← List.take_append_drop place r.tokens]
    rw [List.takeWhile_append_of_pos hbelow, hstop.1, List.append_nil]
  have hdrop : r.tokens.dropWhile (·.token < key) = r.tokens.drop place := by
    conv => lhs; rw [← List.take_append_drop place r.tokens]
    rw [List.dropWhile_append_of_pos hbelow, hstop.2]
  rw [walk, htake, hdrop, List.rotate_eq_drop_append_take hplace.le_length]

/-- Tokens in increasing order have a partition point. -/
theorem exists_isPartitionPoint (hincreasing : r.tokens.Pairwise fun a b => a.token < b.token)
    (key : UInt32) : ∃ place, r.IsPartitionPoint key place := by
  obtain ⟨front, back, hsplit, hfront, hback⟩ : ∃ front back, r.tokens = front ++ back ∧
      (∀ claim ∈ front, claim.token < key) ∧ ∀ claim ∈ back, key ≤ claim.token :=
    ⟨_, _, List.takeWhile_append_dropWhile.symm,
      fun claim hclaim => by simpa using List.all_eq_true.1 List.all_takeWhile claim hclaim,
      le_of_mem_dropWhile hincreasing⟩
  refine ⟨front.length, ?_, ?_, ?_⟩
  · rw [hsplit, List.length_append]
    exact Nat.le_add_right _ _
  · rwa [hsplit, List.take_left]
  · rwa [hsplit, List.drop_left]

/-- Going around the ring meets the tokens that are known to stand at the places. -/
theorem collectAround_eq_ok {place : Nat} {owners : List Nat} {tokens : List OwnedToken}
    (hplaces : ∀ offset, offset < tokens.length →
      r.tokens[(offset + place) % r.tokens.length]? = tokens[offset]?) :
    r.collectAround owners place tokens.length =
      .ok (collectOwners r.replicationFactor owners tokens) := by
  -- Induction on the tokens ahead: one token further, the rest of them stand one place further.
  induction tokens generalizing place owners with
  | nil => rfl
  | cons claim rest ih =>
    have hclaim : r.tokenAt place = .ok claim := by
      have hfirst := hplaces 0 (Nat.zero_lt_succ _)
      rw [Nat.zero_add, List.getElem?_cons_zero] at hfirst
      rw [tokenAt, hfirst]
    have hrest (owners : List Nat) : r.collectAround owners (place + 1) rest.length =
        .ok (collectOwners r.replicationFactor owners rest) := by
      refine ih fun offset hoffset => ?_
      have hnext := hplaces (offset + 1) (Nat.succ_lt_succ hoffset)
      rwa [List.getElem?_cons_succ, Nat.add_right_comm, Nat.add_assoc] at hnext
    rw [List.length_cons, collectAround, collectOwners, hclaim]
    split
    · rfl
    · simp only [bind, Except.bind]
      split
      · exact hrest owners
      · exact hrest _

/-- Every owner of a key has an address. -/
theorem IsRingOf.mapM_addressOf (hr : r.IsRingOf tokenCount instances) {positions : List Nat}
    (hlt : ∀ position ∈ positions, position < instances.length) :
    positions.mapM r.addressOf = .ok (positions.map (addressAt instances)) := by
  induction positions with
  | nil => rfl
  | cons position rest ih =>
    obtain ⟨hposition, hrest⟩ := List.forall_mem_cons.1 hlt
    have haddress : r.addressOf position = .ok (addressAt instances position) := by
      rw [addressOf, hr.addresses_eq, List.getElem?_map, List.getElem?_eq_getElem hposition,
        addressAt_eq hposition]
      rfl
    rw [List.mapM_cons, haddress, ih hrest]
    rfl

/-- In a ring that has been built, going around from the partition point runs into no fault and
gives the answer of the ring. -/
theorem IsRingOf.getAround_eq_ok (hr : r.IsRingOf tokenCount instances)
    (hroom : r.replicationFactor ≤ ownerCapacity) {key : UInt32} {place : Nat}
    (hplace : r.IsPartitionPoint key place) :
    ∃ addresses, r.getAround place = .ok addresses ∧ r.get key = .ok addresses := by
  have howners : r.collectAround [] place r.tokens.length = .ok (r.owners key) := by
    rw [owners, hplace.walk_eq_rotate, ← List.length_rotate (n := place)]
    refine collectAround_eq_ok fun offset hoffset => ?_
    rw [List.length_rotate] at hoffset
    exact (List.getElem?_rotate hoffset).symm
  refine ⟨_, ?_, hr.get_eq_ok hroom key⟩
  rw [getAround, if_neg (by simpa using hr.tokens_ne_nil), if_neg (Nat.not_lt.2 hroom), howners]
  exact hr.mapM_addressOf fun _ hposition => hr.owner_lt hposition

theorem IsRingOf.getAround_eq_noRoom (hr : r.IsRingOf tokenCount instances)
    (hfull : ownerCapacity < r.replicationFactor) (place : Nat) :
    r.getAround place = .error .noRoom := by
  rw [getAround, if_neg (by simpa using hr.tokens_ne_nil), if_pos hfull]

/-! ## Building -/

/-- Building decides about every list of instances: it is refused when no owners are asked for, and
else when nobody contributes a token; it does not return where generation does not end; and in all
other cases there is a ring.  This ring holds the claims of the instances, and a lookup that goes
around it by places finds tokens, stays within its bounds and answers as the ring does, or finds no
room for its owners, whatever the key. -/
theorem build_holds_claims (instances : List Instance) (replicationFactor tokenCount : Nat) :
    (build instances replicationFactor tokenCount = .error .zeroReplicationFactor ↔
      replicationFactor = 0) ∧
    (build instances replicationFactor tokenCount = .error .empty ↔
      replicationFactor ≠ 0 ∧ ¬∃ i ∈ instances, Contributes tokenCount i) ∧
    ((∃ r, build instances replicationFactor tokenCount = .ok r) ↔
      replicationFactor ≠ 0 ∧ (∃ i ∈ instances, Contributes tokenCount i) ∧
        GenerationEnds tokenCount instances) ∧
    (build instances replicationFactor tokenCount = .error .endlessGeneration ↔
      replicationFactor ≠ 0 ∧ ¬GenerationEnds tokenCount instances) ∧
    ∀ r, build instances replicationFactor tokenCount = .ok r →
      r.HoldsClaims tokenCount instances ∧ r.replicationFactor = replicationFactor ∧
      ∀ key, (∃ place, r.IsPartitionPoint key place) ∧
        ∀ place, r.IsPartitionPoint key place →
          (replicationFactor ≤ ownerCapacity →
            ∃ addresses, r.getAround place = .ok addresses ∧ r.get key = .ok addresses) ∧
          (ownerCapacity < replicationFactor →
            r.getAround place = .error .noRoom ∧ r.get key = .error .capacityOverflow) := by
  refine ⟨build_eq_error_iff, build_eq_error_iff, build_eq_ok_iff, build_eq_error_iff, ?_⟩
  intro r hbuild
  have hr := isRingOf_build hbuild
  have hfactor := replicationFactor_build hbuild
  refine ⟨hr.holdsClaims, hfactor, fun key => ⟨?_, ?_⟩⟩
  · exact exists_isPartitionPoint hr.increasing key
  · intro place hplace
    rw [← hfactor]
    exact ⟨fun hroom => hr.getAround_eq_ok hroom hplace, fun hfull =>
      ⟨hr.getAround_eq_noRoom hfull place, hr.get_eq_capacityOverflow hfull key⟩⟩

/-- Instances with a token listed twice and tokens that others list too. -/
def collidingInstances : List Instance :=
  [⟨"a", [20, 10, 20]⟩, ⟨"b", [10, 4000000000]⟩, ⟨"c", [4000000000, 20]⟩]

/-- The ring of `collidingInstances`. -/
def collidingRing : Ring :=
  ⟨[⟨10, 0⟩, ⟨20, 0⟩, ⟨4000000000, 1⟩], ["a", "b", "c"], 2⟩

theorem build_holds_claims_colliding :
    build collidingInstances 2 0 = .ok collidingRing ∧
      collidingRing.HoldsClaims 0 collidingInstances ∧ collidingRing.IsPartitionPoint 15 1 ∧
        collidingRing.getAround 1 = .ok ["a", "b"] ∧ collidingRing.get 15 = .ok ["a", "b"] := by
  have hbuild : build collidingInstances 2 0 = .ok collidingRing := by cbv
  have hplace : collidingRing.IsPartitionPoint 15 1 := ⟨by decide, by decide, by decide⟩
  obtain ⟨-, -, -, -, hring⟩ := build_holds_claims collidingInstances 2 0
  obtain ⟨hholds, -, hlookup⟩ := hring collidingRing hbuild
  obtain ⟨addresses, hget, hanswer⟩ := ((hlookup 15).2 1 hplace).1 (by decide)
  have haddresses : collidingRing.get 15 = .ok ["a", "b"] := by cbv
  cases haddresses.symm.trans hanswer
  exact ⟨hbuild, hholds, hplace, hget, haddresses⟩

/-- One more token than there are is asked for, of an instance that lists none.  It contributes, and
still there is no ring. -/
theorem endless_generation_builds_no_ring :
    (∃ i ∈ [(⟨"ring-0", []⟩ : Instance)], Contributes 4294967297 i) ∧
      build [⟨"ring-0", []⟩] 3 4294967297 = .error .endlessGeneration ∧
      ¬∃ r, build [⟨"ring-0", []⟩] 3 4294967297 = .ok r := by
  have hendless : ¬GenerationEnds 4294967297 [⟨"ring-0", []⟩] := by
    rw [generationEnds_iff_of_lt (by decide)]
    exact fun hlisted => hlisted _ List.mem_cons_self rfl
  have hbuild : build [⟨"ring-0", []⟩] 3 4294967297 = .error .endlessGeneration :=
    build_eq_error_iff.2 ⟨by decide, hendless⟩
  refine ⟨⟨_, List.mem_cons_self, .inr (by decide)⟩, hbuild, ?_⟩
  rw [hbuild]
  exact fun ⟨_, hring⟩ => nomatch hring

end MetricLoad.Ring
