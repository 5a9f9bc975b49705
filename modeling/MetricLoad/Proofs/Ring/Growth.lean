import MetricLoad.Proofs.Ring.Lookup

/-!
# Rings that grow

A further instance takes tokens for itself, some of them perhaps from instances behind it, and moves
the positions of those instances by one.  Nothing else changes: what a walk meets before the first
token of the new instance, it met before.  So a lookup that does not name the new instance is the
old one; and where the new instance comes last, it takes no token from anyone and can only push out
the last owner.
-/

namespace MetricLoad.Ring

variable {tokenCount : Nat} {before after : List Instance} {x : Instance}

/-! ## Positions and claimants -/

/-- Where an instance stands after another has been inserted. -/
def shift (inserted position : Nat) : Nat :=
  if position < inserted then position else position + 1

theorem shift_injective (inserted : Nat) : Function.Injective (shift inserted) := by
  intro a b h
  unfold shift at h
  split at h <;> split at h <;> omega

theorem exists_shift_eq {inserted position : Nat} (h : position ≠ inserted) :
    ∃ old, shift inserted old = position := by
  rcases Nat.lt_or_gt_of_ne h with hlt | hgt
  · exact ⟨position, if_pos hlt⟩
  · refine ⟨position - 1, ?_⟩
    rw [shift, if_neg (by omega)]
    omega

theorem shift_ne (inserted position : Nat) : shift inserted position ≠ inserted := by
  unfold shift
  split <;> omega

theorem firstClaimant?_append {token : UInt32} :
    firstClaimant? tokenCount (before ++ after) token =
      (firstClaimant? tokenCount before token).or
        ((firstClaimant? tokenCount after token).map (· + before.length)) :=
  List.findIdx?_append

theorem firstClaimant?_cons {token : UInt32} :
    firstClaimant? tokenCount (x :: after) token =
      if token ∈ claims tokenCount x then some 0
      else (firstClaimant? tokenCount after token).map (· + 1) := by
  rw [firstClaimant?, List.findIdx?_cons, firstClaimant?]
  simp only [List.contains_iff_mem]

/-- A token that the new instance does not own has the owner it had. -/
theorem firstClaimant?_insert_of_ne {token : UInt32}
    (h : firstClaimant? tokenCount (before ++ x :: after) token ≠ some before.length) :
    firstClaimant? tokenCount (before ++ x :: after) token =
      (firstClaimant? tokenCount (before ++ after) token).map (shift before.length) := by
  rw [firstClaimant?_append, firstClaimant?_cons] at h ⊢
  rw [firstClaimant?_append]
  cases hbefore : firstClaimant? tokenCount before token with
  | some position =>
    have hlt := firstClaimant?_lt hbefore
    rw [Option.some_or, Option.some_or, Option.map_some, shift, if_pos hlt]
  | none =>
    rw [hbefore, Option.none_or] at h
    rw [Option.none_or, Option.none_or]
    by_cases hclaimed : token ∈ claims tokenCount x
    · rw [if_pos hclaimed] at h
      exact absurd (congrArg some (Nat.zero_add _)) h
    · rw [if_neg hclaimed, Option.map_map, Option.map_map]
      refine Option.map_congr fun position _ => ?_
      show position + 1 + before.length = shift before.length (position + before.length)
      rw [shift, if_neg (by omega)]
      omega

/-- An instance that comes last takes no token from others. -/
theorem firstClaimant?_concat_ne {token : UInt32} {position : Nat}
    (h : firstClaimant? tokenCount before token = some position) :
    firstClaimant? tokenCount (before ++ [x]) token ≠ some before.length := by
  have hlt := firstClaimant?_lt h
  rw [firstClaimant?_append, h, Option.some_or]
  intro heq
  cases heq
  exact Nat.lt_irrefl _ hlt

/-! ## Leaving out a member -/

theorem filter_take_prefix_take (p : Nat → Bool) (l : List Nat) (count : Nat) :
    (l.take count).filter p <+: (l.filter p).take count := by
  have hlength : ((l.take count).filter p).length ≤ count :=
    Nat.le_trans (List.length_filter_le p _) (List.length_take_le count l)
  exact List.prefix_take_iff.2 ⟨(List.take_prefix count l).filter p, hlength⟩

/-- A member that is left out makes room for one more. -/
theorem length_take_filter_le {l : List Nat} (hl : l.Nodup) (a count : Nat) :
    ((l.filter (· != a)).take count).length ≤ ((l.take count).filter (· != a)).length + 1 := by
  have hnodup : (l.take count).Nodup := hl.sublist (List.take_sublist _ _)
  have hrest : (l.take count).length ≤ ((l.take count).filter (· != a)).length + 1 := by
    rw [← hnodup.erase_eq_filter, List.length_erase]
    split <;> omega
  have hless := List.length_filter_le (· != a) l
  rw [List.length_take] at hrest ⊢
  omega

/-! ## Walks over both rings -/

/-- A token whose owner may have moved. -/
def shiftOwner (inserted : Nat) (claim : OwnedToken) : OwnedToken :=
  { claim with owner := shift inserted claim.owner }

/-- A walk over a ring, with the owners at their positions after an insertion. -/
def shiftedWalk (r : Ring) (inserted : Nat) (key : UInt32) : List OwnedToken :=
  (r.walk key).map (shiftOwner inserted)

theorem map_shift_owners (r : Ring) (inserted : Nat) (key : UInt32) :
    (r.owners key).map (shift inserted) =
      ((r.shiftedWalk inserted key).map (·.owner)).eraseDups.take r.replicationFactor := by
  have hmap : (r.shiftedWalk inserted key).map (·.owner) =
      ((r.walk key).map (·.owner)).map (shift inserted) := by
    rw [shiftedWalk, List.map_map, List.map_map]
    rfl
  rw [owners_eq_take, List.map_take, hmap, eraseDups_map (shift_injective inserted)]

section Walks

variable {r grown : Ring} (hr : r.IsRingOf tokenCount (before ++ after))
  (hgrown : grown.IsRingOf tokenCount (before ++ x :: after)) {key : UInt32}

include hr

theorem pairwise_shiftedWalk : (r.shiftedWalk before.length key).Pairwise (IsNearer key) :=
  List.pairwise_map.2 (pairwise_walk key hr.increasing)

include hgrown

theorem mem_shiftedWalk_of_ne {claim : OwnedToken} (hclaim : claim ∈ grown.walk key)
    (hne : claim.owner ≠ before.length) : claim ∈ r.shiftedWalk before.length key := by
  have howner := hgrown.mem_walk_iff.1 hclaim
  have hold := firstClaimant?_insert_of_ne (by
    rw [howner]
    exact fun heq => hne (Option.some.inj heq))
  rw [howner] at hold
  obtain ⟨position, hposition, hshift⟩ := Option.map_eq_some_iff.1 hold.symm
  refine List.mem_map.2 ⟨⟨claim.token, position⟩, hr.mem_walk_iff.2 hposition, ?_⟩
  rw [shiftOwner, hshift]

/-- The token of a claim of before belongs to the new instance now, or to whom it belonged. -/
theorem mem_walk_or_of_mem_shiftedWalk {claim : OwnedToken}
    (hclaim : claim ∈ r.shiftedWalk before.length key) :
    ⟨claim.token, before.length⟩ ∈ grown.walk key ∨ claim ∈ grown.walk key := by
  obtain ⟨old, hold, rfl⟩ := List.mem_map.1 hclaim
  have howner := hr.mem_walk_iff.1 hold
  rw [hgrown.mem_walk_iff, hgrown.mem_walk_iff]
  by_cases htaken : firstClaimant? tokenCount (before ++ x :: after) old.token =
      some before.length
  · exact Or.inl htaken
  · right
    have hkept := firstClaimant?_insert_of_ne htaken
    rwa [howner] at hkept

/-- Without a token of the new instance, the walk is the one of before. -/
theorem walk_eq_shiftedWalk (hnone : ∀ claim ∈ grown.walk key, claim.owner ≠ before.length) :
    grown.walk key = r.shiftedWalk before.length key := by
  refine List.Pairwise.eq_of_mem_iff (pairwise_walk key hgrown.increasing)
    (pairwise_shiftedWalk hr) fun claim => ⟨fun hclaim => ?_, fun hclaim => ?_⟩
  · exact mem_shiftedWalk_of_ne hr hgrown hclaim (hnone claim hclaim)
  · rcases mem_walk_or_of_mem_shiftedWalk hr hgrown hclaim with htaken | hkept
    · exact absurd rfl (hnone _ htaken)
    · exact hkept

/-- What a walk meets before the first token of the new instance, it met before. -/
theorem prefix_shiftedWalk {near rest : List OwnedToken} {first : OwnedToken}
    (hwalk : grown.walk key = near ++ first :: rest)
    (hnear : ∀ claim ∈ near, claim.owner ≠ before.length) :
    near <+: r.shiftedWalk before.length key := by
  have hpairwise := pairwise_walk key hgrown.increasing
  rw [hwalk, List.pairwise_append] at hpairwise
  obtain ⟨hordered, -, hbehind⟩ := hpairwise
  have hlater : ∀ a ∈ near, ∀ claim ∈ grown.walk key, claim ∉ near → IsNearer key a claim := by
    intro a ha claim hclaim hnot
    rw [hwalk, List.mem_append] at hclaim
    exact hbehind a ha claim (hclaim.resolve_left hnot)
  refine prefix_of_isNearer hordered (pairwise_shiftedWalk hr) ?_ ?_
  · intro claim hclaim
    have hmem : claim ∈ grown.walk key := by
      rw [hwalk]
      exact List.mem_append_left _ hclaim
    exact mem_shiftedWalk_of_ne hr hgrown hmem (hnear claim hclaim)
  · -- What else was met before lies, under its old or its new owner, behind all of `near`.
    intro a ha claim hclaim hnot
    rcases mem_walk_or_of_mem_shiftedWalk hr hgrown hclaim with htaken | hkept
    · exact hlater a ha ⟨claim.token, before.length⟩ htaken fun hmem => hnear _ hmem rfl
    · exact hlater a ha claim hkept hnot

/-- If the new instance is not among the owners of a key, they are the owners of before. -/
theorem owners_eq_map_shift (hfactor : grown.replicationFactor = r.replicationFactor)
    (hnot : before.length ∉ grown.owners key) :
    grown.owners key = (r.owners key).map (shift before.length) := by
  rw [map_shift_owners, ← hfactor]
  rw [owners_eq_take] at hnot ⊢
  cases htoken : (grown.walk key).find? (·.owner == before.length) with
  | none =>
    have hnone : ∀ claim ∈ grown.walk key, claim.owner ≠ before.length := by
      simpa using htoken
    rw [walk_eq_shiftedWalk hr hgrown hnone]
  | some first =>
    obtain ⟨hfirst, near, rest, hwalk, hbefore⟩ := List.find?_eq_some_iff_append.1 htoken
    have hnear : ∀ claim ∈ near, claim.owner ≠ before.length := by simpa using hbefore
    obtain ⟨others, hothers⟩ := prefix_shiftedWalk hr hgrown hwalk hnear
    have hown : before.length ∉ near.map (·.owner) := by
      intro hmem
      obtain ⟨claim, hclaim, howner⟩ := List.mem_map.1 hmem
      exact hnear claim hclaim howner
    rw [hwalk, List.map_append, List.map_cons, eq_of_beq hfirst] at hnot ⊢
    -- The collection ends within what both walks have in common.
    have henough := le_length_eraseDups_of_not_mem hown hnot
    rw [← hothers, List.map_append, take_eraseDups_append henough, take_eraseDups_append henough]

/-- Where the new instance comes last, the walk is the one of before but for its tokens. -/
theorem filter_walk_of_last (hlast : after = []) :
    (grown.walk key).filter (·.owner != before.length) = r.shiftedWalk before.length key := by
  subst hlast
  refine List.Pairwise.eq_of_mem_iff ((pairwise_walk key hgrown.increasing).filter _)
    (pairwise_shiftedWalk hr) fun claim => ?_
  rw [List.mem_filter, bne_iff_ne]
  constructor
  · rintro ⟨hclaim, hne⟩
    exact mem_shiftedWalk_of_ne hr hgrown hclaim hne
  · intro hclaim
    obtain ⟨old, hold, rfl⟩ := List.mem_map.1 hclaim
    have howner := hr.mem_walk_iff.1 hold
    rw [List.append_nil] at howner
    -- No old claim lost its token to an instance behind it.
    rcases mem_walk_or_of_mem_shiftedWalk hr hgrown hclaim with htaken | hkept
    · exact absurd (hgrown.mem_walk_iff.1 htaken) (firstClaimant?_concat_ne howner)
    · exact ⟨hkept, shift_ne _ _⟩

/-- Where the new instance comes last, it can only push out the last of the owners. -/
theorem filter_owners_of_last (hfactor : grown.replicationFactor = r.replicationFactor)
    (hlast : after = []) (key : UInt32) :
    (grown.owners key).filter (· != before.length) <+: (r.owners key).map (shift before.length) ∧
      (r.owners key).length ≤ ((grown.owners key).filter (· != before.length)).length + 1 := by
  have howners : (r.owners key).map (shift before.length) =
      (((grown.walk key).map (·.owner)).eraseDups.filter (· != before.length)).take
        grown.replicationFactor := by
    rw [map_shift_owners, ← filter_walk_of_last hr hgrown hlast, ← eraseDups_filter,
      List.filter_map, hfactor]
    rfl
  rw [← List.length_map (shift before.length), howners, owners_eq_take]
  exact ⟨filter_take_prefix_take _ _ _, length_take_filter_le (nodup_eraseDups _) _ _⟩

end Walks

/-! ## Answers of both rings -/

theorem addressAt_shift (position : Nat) :
    addressAt (before ++ x :: after) (shift before.length position) =
      addressAt (before ++ after) position := by
  simp only [addressAt, List.getD_eq_getElem?_getD, List.getElem?_map]
  by_cases hlt : position < before.length
  · rw [shift, if_pos hlt, List.getElem?_append_left hlt, List.getElem?_append_left hlt]
  · have hnext : position + 1 - before.length = position - before.length + 1 := by omega
    rw [shift, if_neg hlt, List.getElem?_append_right (by omega),
      List.getElem?_append_right (by omega), hnext, List.getElem?_cons_succ]

theorem addressAt_inserted :
    addressAt (before ++ x :: after) before.length = x.address := by
  simp [addressAt]

/-- Only the new instance has its address. -/
theorem addressAt_eq_iff (hfresh : ∀ i ∈ before ++ after, i.address ≠ x.address) {position : Nat}
    (hposition : position < (before ++ x :: after).length) :
    addressAt (before ++ x :: after) position = x.address ↔ position = before.length := by
  constructor
  · intro haddress
    by_contra hne
    obtain ⟨old, rfl⟩ := exists_shift_eq hne
    have hold : old < (before ++ after).length := by
      rw [List.length_append, List.length_cons] at hposition
      rw [List.length_append]
      unfold shift at hposition
      split at hposition <;> omega
    rw [addressAt_shift, addressAt_eq hold] at haddress
    exact hfresh _ (List.getElem_mem hold) haddress
  · rintro rfl
    exact addressAt_inserted

/-- After an instance with an address of its own has been added to a ring, a lookup that does not
name it is the one of before.  Where it has been added at the end, its removal from a lookup leaves
the beginning of the one of before, of which at most the last is missing.  Both rings ask for room
for the same number of owners, so where one of them finds none, neither does the other. -/
theorem get_insert {replicationFactor : Nat} {r grown : Ring}
    (hbuild : build (before ++ after) replicationFactor tokenCount = .ok r)
    (hgrow : build (before ++ x :: after) replicationFactor tokenCount = .ok grown)
    (hfresh : ∀ i ∈ before ++ after, i.address ≠ x.address) (key : UInt32) :
    (replicationFactor ≤ ownerCapacity →
      ∃ addresses addresses', r.get key = .ok addresses ∧ grown.get key = .ok addresses' ∧
        (x.address ∉ addresses' → addresses' = addresses) ∧
        (after = [] → addresses'.filter (· != x.address) <+: addresses ∧
          addresses.length ≤ (addresses'.filter (· != x.address)).length + 1)) ∧
    (ownerCapacity < replicationFactor →
      r.get key = .error .capacityOverflow ∧ grown.get key = .error .capacityOverflow) := by
  have hr := isRingOf_build hbuild
  have hgrown := isRingOf_build hgrow
  have hold := replicationFactor_build hbuild
  have hnew := replicationFactor_build hgrow
  refine ⟨fun hroom => ?_, fun hfull => ⟨hr.get_eq_capacityOverflow (hold.symm ▸ hfull) key,
    hgrown.get_eq_capacityOverflow (hnew.symm ▸ hfull) key⟩⟩
  have hfactor : grown.replicationFactor = r.replicationFactor := hnew.trans hold.symm
  -- Both answers are read off the addresses of the grown list.
  have hshifted : (r.owners key).map (addressAt (before ++ after)) =
      ((r.owners key).map (shift before.length)).map (addressAt (before ++ x :: after)) := by
    rw [List.map_map]
    exact List.map_congr_left fun position _ => (addressAt_shift position).symm
  have hremove : ((grown.owners key).map (addressAt (before ++ x :: after))).filter
        (· != x.address) =
      ((grown.owners key).filter (· != before.length)).map
        (addressAt (before ++ x :: after)) := by
    rw [List.filter_map]
    refine congrArg (List.map _) (List.filter_congr fun position hposition => ?_)
    rw [Function.comp_apply, Bool.eq_iff_iff, bne_iff_ne, bne_iff_ne, Ne,
      addressAt_eq_iff hfresh (hgrown.owner_lt hposition)]
  refine ⟨_, _, hr.get_eq_ok (hold.symm ▸ hroom) key, hgrown.get_eq_ok (hnew.symm ▸ hroom) key,
    ?_, ?_⟩
  · intro hnot
    have howner : before.length ∉ grown.owners key := fun hmem =>
      hnot (List.mem_map.2 ⟨_, hmem, addressAt_inserted⟩)
    rw [hshifted, owners_eq_map_shift hr hgrown hfactor howner]
  · intro hlast
    have hbegin := filter_owners_of_last hr hgrown hfactor hlast key
    rw [hremove, hshifted]
    refine ⟨hbegin.1.map _, ?_⟩
    rw [List.length_map, List.length_map, List.length_map]
    exact hbegin.2

theorem get_insert_last :
    ∃ r grown addresses addresses',
      build ([⟨"a", [10]⟩, ⟨"b", [20]⟩] ++ []) 2 0 = .ok r ∧
      build ([⟨"a", [10]⟩, ⟨"b", [20]⟩] ++ [⟨"x", [15, 20]⟩]) 2 0 = .ok grown ∧
      r.get 12 = .ok addresses ∧ grown.get 12 = .ok addresses' ∧
      ("x" ∉ addresses' → addresses' = addresses) ∧
      addresses'.filter (· != "x") <+: addresses ∧
      addresses.length ≤ (addresses'.filter (· != "x")).length + 1 := by
  have hfresh : ∀ i ∈ [⟨"a", [10]⟩, ⟨"b", [20]⟩] ++ ([] : List Instance), i.address ≠ "x" := by
    decide
  have hbuild : ∃ r, build ([⟨"a", [10]⟩, ⟨"b", [20]⟩] ++ []) 2 0 = .ok r := ⟨_, rfl⟩
  have hgrow : ∃ grown, build ([⟨"a", [10]⟩, ⟨"b", [20]⟩] ++ [⟨"x", [15, 20]⟩]) 2 0 = .ok grown :=
    ⟨_, rfl⟩
  obtain ⟨r, hr⟩ := hbuild
  obtain ⟨grown, hgrown⟩ := hgrow
  have hroom : 2 ≤ ownerCapacity := by decide
  obtain ⟨addresses, addresses', hold, hnew, hequal, hlast⟩ :=
    (get_insert hr hgrown hfresh 12).1 hroom
  exact ⟨r, grown, addresses, addresses', hr, hgrown, hold, hnew, hequal, hlast rfl⟩

/-- Where `2 ^ 60` owners are asked for, the lookups of two rings cannot be compared: neither ring
answers, neither before nor after an instance has been added. -/
theorem insert_beyond_capacity :
    ∃ r grown, build [⟨"a", [1]⟩] 1152921504606846976 0 = .ok r ∧
      build [⟨"a", [1]⟩, ⟨"b", [2]⟩] 1152921504606846976 0 = .ok grown ∧
      r.get 0 = .error .capacityOverflow ∧ grown.get 0 = .error .capacityOverflow :=
  ⟨_, _, rfl, rfl, by cbv, by cbv⟩

end MetricLoad.Ring
