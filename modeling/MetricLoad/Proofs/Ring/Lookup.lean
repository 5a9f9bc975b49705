import MetricLoad.Proofs.Ring.Walk
import Mathlib.Data.List.Permutation

/-!
# Lookups are by clockwise distance

A ring answers every key, and with the owners that the clockwise distances of the claimed tokens
determine.  A walk meets exactly the claimed tokens, in the order of their distances, and each with
its first claimant; so its owners are those of the tokens listed by distance, and the number of
different ones is the number of instances that own a token.

There is one exception, and it is the same for every key: room is made for the owners before they
are known, so where the replication factor is beyond `ownerCapacity` no lookup comes to its answer,
however few owners there are.
-/

namespace MetricLoad.Ring

variable {tokenCount : Nat} {instances : List Instance} {r : Ring}

/-! ## The claimed tokens -/

theorem mem_claimedTokens_iff {token : UInt32} :
    token ∈ claimedTokens tokenCount instances ↔
      ∃ position, firstClaimant? tokenCount instances token = some position := by
  rw [claimedTokens, List.mem_eraseDups, List.mem_flatMap, ← Option.isSome_iff_exists,
    firstClaimant?, List.findIdx?_isSome, List.any_eq_true]
  constructor
  · rintro ⟨i, hi, htoken⟩
    exact ⟨i, hi, by simpa using htoken⟩
  · rintro ⟨i, hi, htoken⟩
    exact ⟨i, hi, by simpa using htoken⟩

theorem firstClaimant?_lt {token : UInt32} {position : Nat}
    (h : firstClaimant? tokenCount instances token = some position) :
    position < instances.length := by
  obtain ⟨⟨i, hi, -⟩, -⟩ := firstClaimant?_eq_some_iff.1 h
  exact (List.getElem?_eq_some_iff.1 hi).1

theorem mem_owningPositions_iff {position : Nat} :
    position ∈ owningPositions tokenCount instances ↔
      ∃ token, firstClaimant? tokenCount instances token = some position := by
  rw [owningPositions, List.mem_filter, List.mem_range, List.any_eq_true]
  constructor
  · rintro ⟨-, token, -, howner⟩
    exact ⟨token, by simpa using howner⟩
  · rintro ⟨token, howner⟩
    exact ⟨firstClaimant?_lt howner, token, mem_claimedTokens_iff.2 ⟨position, howner⟩,
      by simpa using howner⟩

theorem pairwise_tokensByDistance (key : UInt32) :
    (tokensByDistance tokenCount instances key).Pairwise fun a b =>
      clockwiseDistance key a ≤ clockwiseDistance key b := by
  refine (List.pairwise_mergeSort ?_ ?_ _).imp fun {a b} h => by simpa using h
  · intro a b c hab hbc
    simp only [decide_eq_true_eq] at *
    exact UInt32.le_trans hab hbc
  · intro a b
    simpa using UInt32.le_total _ _

/-! ## Walks and distances -/

namespace IsRingOf

theorem mem_walk_iff (hr : r.IsRingOf tokenCount instances) {key : UInt32} {claim : OwnedToken} :
    claim ∈ r.walk key ↔ firstClaimant? tokenCount instances claim.token = some claim.owner := by
  rw [mem_walk, hr.mem_tokens]

/-- A walk meets the claimed tokens by increasing distance. -/
theorem map_token_walk (hr : r.IsRingOf tokenCount instances) (key : UInt32) :
    (r.walk key).map (·.token) = tokensByDistance tokenCount instances key := by
  have hstrict : ((r.walk key).map (·.token)).Pairwise
      fun a b => clockwiseDistance key a < clockwiseDistance key b :=
    List.pairwise_map.2 (pairwise_walk key hr.increasing)
  have hnodup : ((r.walk key).map (·.token)).Nodup :=
    hstrict.imp fun hlt heq => absurd (heq ▸ hlt) (UInt32.lt_irrefl _)
  have hclaimed : ((r.walk key).map (·.token)).Perm (claimedTokens tokenCount instances) := by
    refine (List.perm_ext_iff_of_nodup hnodup (nodup_eraseDups _)).2 fun token => ?_
    rw [← claimedTokens, mem_claimedTokens_iff, List.mem_map]
    constructor
    · rintro ⟨claim, hclaim, rfl⟩
      exact ⟨claim.owner, hr.mem_walk_iff.1 hclaim⟩
    · rintro ⟨position, howner⟩
      exact ⟨⟨token, position⟩, hr.mem_walk_iff.2 howner, rfl⟩
  -- Different tokens have different distances, so only one order is possible.
  exact (hclaimed.trans (List.mergeSort_perm _ _).symm).eq_of_pairwise
    (fun a b _ _ hab hba => clockwiseDistance_inj (UInt32.le_antisymm hab hba))
    (hstrict.imp UInt32.le_of_lt) (pairwise_tokensByDistance key)

/-- A walk meets the first claimants of the tokens listed by distance. -/
theorem map_owner_walk (hr : r.IsRingOf tokenCount instances) (key : UInt32) :
    (r.walk key).map (·.owner) =
      (tokensByDistance tokenCount instances key).filterMap
        (firstClaimant? tokenCount instances) := by
  rw [← hr.map_token_walk key, List.filterMap_map, ← List.filterMap_eq_map]
  exact List.filterMap_congr fun claim hclaim => (hr.mem_walk_iff.1 hclaim).symm

/-- A walk meets every instance that owns a token. -/
theorem length_eraseDups_owners (hr : r.IsRingOf tokenCount instances) (key : UInt32) :
    ((r.walk key).map (·.owner)).eraseDups.length =
      (owningPositions tokenCount instances).length := by
  have hpositions : (owningPositions tokenCount instances).Nodup := List.nodup_range.filter _
  refine List.Perm.length_eq
    ((List.perm_ext_iff_of_nodup (nodup_eraseDups _) hpositions).2 fun position => ?_)
  rw [List.mem_eraseDups, List.mem_map, mem_owningPositions_iff]
  constructor
  · rintro ⟨claim, hclaim, rfl⟩
    exact ⟨claim.token, hr.mem_walk_iff.1 hclaim⟩
  · rintro ⟨token, howner⟩
    exact ⟨⟨token, position⟩, hr.mem_walk_iff.2 howner, rfl⟩

theorem owners_eq_clockwiseOwners (hr : r.IsRingOf tokenCount instances) (key : UInt32) :
    r.owners key = clockwiseOwners tokenCount instances r.replicationFactor key := by
  rw [owners_eq_take, clockwiseOwners, ← hr.map_owner_walk, ← hr.length_eraseDups_owners key,
    ← List.take_take, List.take_length]

theorem owner_lt (hr : r.IsRingOf tokenCount instances) {key : UInt32} {position : Nat}
    (h : position ∈ r.owners key) : position < instances.length := by
  rw [owners_eq_take] at h
  obtain ⟨claim, hclaim, rfl⟩ := List.mem_map.1 (List.mem_eraseDups.1 (List.mem_of_mem_take h))
  exact firstClaimant?_lt (hr.mem_walk_iff.1 hclaim)

end IsRingOf

theorem nodup_owners (r : Ring) (key : UInt32) : (r.owners key).Nodup := by
  rw [owners_eq_take]
  exact (nodup_eraseDups _).sublist (List.take_sublist _ _)

/-! ## Answers -/

/-- The address of the instance at a position. -/
def addressAt (instances : List Instance) (position : Nat) : String :=
  (instances.map (·.address)).getD position ""

theorem addressAt_eq {position : Nat} (h : position < instances.length) :
    addressAt instances position = instances[position].address := by
  rw [addressAt, List.getD_eq_getElem?_getD, List.getElem?_map, List.getElem?_eq_getElem h]
  rfl

/-- A ring answers with the addresses of the owners, if there can be room for as many as are asked
for. -/
theorem IsRingOf.get_eq_ok (hr : r.IsRingOf tokenCount instances)
    (hroom : r.replicationFactor ≤ ownerCapacity) (key : UInt32) :
    r.get key = .ok ((r.owners key).map (addressAt instances)) := by
  have haddress : (r.owners key).filterMap (fun owner => r.addresses[owner]?) =
      (r.owners key).map (addressAt instances) := by
    rw [← List.filterMap_eq_map]
    refine List.filterMap_congr fun position hposition => ?_
    have hlt := hr.owner_lt hposition
    rw [hr.addresses_eq, List.getElem?_map, List.getElem?_eq_getElem hlt]
    exact congrArg some (addressAt_eq hlt).symm
  rw [get, if_neg (by simpa using hr.tokens_ne_nil), if_neg (Nat.not_lt.2 hroom), haddress]

theorem IsRingOf.get_eq_capacityOverflow (hr : r.IsRingOf tokenCount instances)
    (hfull : ownerCapacity < r.replicationFactor) (key : UInt32) :
    r.get key = .error .capacityOverflow := by
  rw [get, if_neg (by simpa using hr.tokens_ne_nil), if_pos hfull]

theorem replicationFactor_build {replicationFactor : Nat}
    (h : build instances replicationFactor tokenCount = .ok r) :
    r.replicationFactor = replicationFactor := by
  unfold build at h
  split at h
  · cases h
  · split at h
    · cases h
    · cases h
    · cases h
      rfl

/-- Different positions of instances with different addresses have different addresses. -/
theorem nodup_map_addressAt {positions : List Nat} (hpositions : positions.Nodup)
    (hlt : ∀ position ∈ positions, position < instances.length)
    (haddresses : (instances.map (·.address)).Nodup) :
    (positions.map (addressAt instances)).Nodup := by
  refine List.Nodup.map_on (fun a ha b hb heq => ?_) hpositions
  rw [addressAt_eq (hlt a ha), addressAt_eq (hlt b hb)] at heq
  refine (List.getElem?_inj (by simpa using hlt a ha) haddresses).1 ?_
  rw [List.getElem?_map, List.getElem?_map, List.getElem?_eq_getElem (hlt a ha),
    List.getElem?_eq_getElem (hlt b hb)]
  exact congrArg some heq

/-- A ring that has been built answers every key with the addresses of the owners by clockwise
distance.  There are as many as the replication factor asks for, or as many as own a token; they are
at different positions; and a key that is a token has the owner of this token in front.  Only a
replication factor beyond all capacity leaves every key without an answer. -/
theorem get_eq_clockwiseOwners {replicationFactor : Nat}
    (hbuild : build instances replicationFactor tokenCount = .ok r) (key : UInt32) :
    (replicationFactor ≤ ownerCapacity →
      ∃ addresses, r.get key = .ok addresses ∧
        addresses.map some =
          (clockwiseOwners tokenCount instances replicationFactor key).map
            (fun position => instances[position]?.map (·.address)) ∧
        (clockwiseOwners tokenCount instances replicationFactor key).length =
          min replicationFactor (owningPositions tokenCount instances).length ∧
        (clockwiseOwners tokenCount instances replicationFactor key).Nodup ∧
        ((instances.map (·.address)).Nodup → addresses.Nodup) ∧
        ∀ position, firstClaimant? tokenCount instances key = some position →
          (clockwiseOwners tokenCount instances replicationFactor key).head? = some position) ∧
    (ownerCapacity < replicationFactor → r.get key = .error .capacityOverflow) := by
  have hr := isRingOf_build hbuild
  have hfactor := replicationFactor_build hbuild
  have howners : r.owners key = clockwiseOwners tokenCount instances replicationFactor key := by
    rw [hr.owners_eq_clockwiseOwners, hfactor]
  refine ⟨fun hroom => ?_, fun hfull => hr.get_eq_capacityOverflow (hfactor.symm ▸ hfull) key⟩
  refine ⟨_, hr.get_eq_ok (hfactor.symm ▸ hroom) key, ?_, ?_, ?_, ?_, ?_⟩
  · rw [← howners, List.map_map]
    refine List.map_congr_left fun position hposition => ?_
    have hlt := hr.owner_lt hposition
    rw [List.getElem?_eq_getElem hlt]
    exact congrArg some (addressAt_eq hlt)
  · rw [clockwiseOwners, List.length_take, ← hr.map_owner_walk, hr.length_eraseDups_owners key]
    omega
  · exact howners ▸ nodup_owners r key
  · exact nodup_map_addressAt (nodup_owners r key) fun _ hposition => hr.owner_lt hposition
  · intro position hposition
    have hfirst := head?_walk_of_mem hr.increasing ((hr.mem_tokens ⟨key, position⟩).2 hposition)
    obtain ⟨rest, hwalk⟩ := List.head?_eq_some_iff.1 hfirst
    rw [← howners, owners_eq_take, hwalk, List.map_cons, List.eraseDups_cons, List.head?_take,
      if_neg (Nat.ne_of_gt hr.replicationFactor_pos), List.head?_cons]

/-- Three instances with tokens in common, the last of which owns none. -/
def sharingInstances : List Instance :=
  [⟨"a", [10, 20]⟩, ⟨"b", [20, 4000000000]⟩, ⟨"c", [10]⟩]

theorem get_eq_clockwiseOwners_sharing :
    ∃ r, build sharingInstances 3 0 = .ok r ∧ r.get 4000000000 = .ok ["b", "a"] := by
  have hbuild : ∃ r, build sharingInstances 3 0 = .ok r := ⟨_, rfl⟩
  obtain ⟨r, hr⟩ := hbuild
  have hroom : 3 ≤ ownerCapacity := by decide
  obtain ⟨addresses, hget, haddresses, -⟩ := (get_eq_clockwiseOwners hr 4000000000).1 hroom
  have howners : clockwiseOwners 0 sharingInstances 3 4000000000 = [1, 0] := by cbv
  rw [howners] at haddresses
  have hnames : addresses.map some = ["b", "a"].map some := haddresses
  rw [List.map_inj_right fun _ _ h => Option.some.inj h] at hnames
  exact ⟨r, hr, hnames ▸ hget⟩

/-- A single owner is found by no lookup when `2 ^ 60` are asked for. -/
theorem lone_owner_beyond_capacity :
    ∃ r, build [⟨"a", [1]⟩] 1152921504606846976 0 = .ok r ∧
      clockwiseOwners 0 [⟨"a", [1]⟩] 1152921504606846976 0 = [0] ∧
      r.get 0 = .error .capacityOverflow :=
  ⟨_, rfl, by cbv, by cbv⟩

end MetricLoad.Ring
