import MetricLoad.Ring.Clockwise
import Mathlib.Data.List.Basic

/-!
# Who owns a token

The tokens of a ring are the tokens that its instances claim, each of them once, in increasing
order; the owner of a token is the first instance, in the order of configuration, that claims it.
The ring finds these owners by sorting all claims and keeping the first of every run of equal
tokens.  `firstClaimant?` says the same without sorting: it looks through the instances for a
claimant.

`IsRingOf` collects what a ring that has been built keeps to.  Lookups are reasoned about from it
and never from the claims.
-/

namespace MetricLoad.Ring

theorem firstClaimant?_eq_some_iff {tokenCount : Nat} {instances : List Instance} {token : UInt32}
    {position : Nat} :
    firstClaimant? tokenCount instances token = some position ↔
      (∃ i, instances[position]? = some i ∧ token ∈ claims tokenCount i) ∧
        ∀ earlier i, instances[earlier]? = some i → token ∈ claims tokenCount i →
          position ≤ earlier := by
  rw [firstClaimant?, List.findIdx?_eq_some_iff_getElem]
  constructor
  · rintro ⟨hposition, hclaims, hfirst⟩
    refine ⟨⟨_, List.getElem?_eq_getElem hposition, by simpa using hclaims⟩, ?_⟩
    intro earlier i hi htoken
    obtain ⟨hearlier, rfl⟩ := List.getElem?_eq_some_iff.1 hi
    by_contra hlt
    exact hfirst earlier (Nat.lt_of_not_le hlt) (by simpa using htoken)
  · rintro ⟨⟨i, hi, htoken⟩, hfirst⟩
    obtain ⟨hposition, rfl⟩ := List.getElem?_eq_some_iff.1 hi
    refine ⟨hposition, by simpa using htoken, ?_⟩
    intro earlier hearlier hclaims
    have hle := hfirst earlier _ (List.getElem?_eq_getElem (Nat.lt_trans hearlier hposition))
      (by simpa using hclaims)
    omega

/-! ## The claims of all instances -/

theorem mem_claimsFrom? {tokenCount start : Nat} {instances : List Instance}
    {all : List OwnedToken} (h : claimsFrom? tokenCount start instances = some all)
    {claim : OwnedToken} :
    claim ∈ all ↔ ∃ position i, instances[position]? = some i ∧
      claim.owner = start + position ∧ claim.token ∈ claims tokenCount i := by
  induction instances generalizing start all with
  | nil =>
    cases h
    simp
  | cons first rest ih =>
    simp only [claimsFrom?, Option.bind_eq_bind, Option.bind_eq_some_iff, Option.pure_def,
      Option.some.injEq] at h
    obtain ⟨tokens, htokens, others, hothers, rfl⟩ := h
    have hfirst : claims tokenCount first = tokens := by rw [claims, htokens, Option.getD_some]
    rw [List.mem_append, ih hothers]
    constructor
    · rintro (hown | ⟨position, i, hi, howner, htoken⟩)
      · obtain ⟨token, htoken, rfl⟩ := List.mem_map.1 hown
        exact ⟨0, first, rfl, rfl, hfirst ▸ htoken⟩
      · exact ⟨position + 1, i, hi, by omega, htoken⟩
    · rintro ⟨position, i, hi, howner, htoken⟩
      cases position with
      | zero =>
        cases hi
        refine Or.inl (List.mem_map.2 ⟨claim.token, hfirst ▸ htoken, ?_⟩)
        rw [← show claim.owner = start from howner]
      | succ position => exact Or.inr ⟨position, i, hi, by omega, htoken⟩

theorem isSome_claimsFrom?_iff {tokenCount start : Nat} {instances : List Instance} :
    (claimsFrom? tokenCount start instances).isSome ↔
      ∀ i ∈ instances, (claims? tokenCount i).isSome := by
  induction instances generalizing start with
  | nil => simp [claimsFrom?]
  | cons first rest ih =>
    rw [List.forall_mem_cons, ← @ih (start + 1), claimsFrom?]
    cases claims? tokenCount first <;> cases claimsFrom? tokenCount (start + 1) rest <;> simp

/-! ## The order of claims -/

theorem OwnedToken.le_iff {a b : OwnedToken} :
    OwnedToken.le a b = true ↔ a.token < b.token ∨ a.token = b.token ∧ a.owner ≤ b.owner := by
  simp [OwnedToken.le]

theorem OwnedToken.le_trans (a b c : OwnedToken) (hab : OwnedToken.le a b = true)
    (hbc : OwnedToken.le b c = true) : OwnedToken.le a c = true := by
  rw [OwnedToken.le_iff, UInt32.lt_iff_toNat_lt, ← UInt32.toNat_inj] at *
  omega

theorem OwnedToken.le_total (a b : OwnedToken) :
    (OwnedToken.le a b || OwnedToken.le b a) = true := by
  rw [Bool.or_eq_true, OwnedToken.le_iff, OwnedToken.le_iff, UInt32.lt_iff_toNat_lt,
    UInt32.lt_iff_toNat_lt, ← UInt32.toNat_inj, ← UInt32.toNat_inj]
  omega

/-! ## The first of every run -/

theorem firstClaims_subset (all : List OwnedToken) : firstClaims all ⊆ all := by
  fun_induction firstClaims all with
  | case1 => exact List.Subset.refl _
  | case2 claim => exact List.Subset.refl _
  | case3 claim next rest htoken ih =>
    exact List.Subset.trans ih (List.cons_subset_cons _ (List.subset_cons_self _ _))
  | case4 claim next rest htoken ih => exact List.cons_subset_cons _ ih

/-- In a sorted list, everything behind a claim to another token has a larger token. -/
theorem token_lt_of_sorted {claim next : OwnedToken} {rest : List OwnedToken}
    (hsorted : (claim :: next :: rest).Pairwise fun a b => OwnedToken.le a b = true)
    (hne : claim.token ≠ next.token) : ∀ other ∈ next :: rest, claim.token < other.token := by
  intro other hother
  obtain ⟨hclaim, hnext⟩ := List.pairwise_cons.1 hsorted
  have hfirst := OwnedToken.le_iff.1 (hclaim next List.mem_cons_self)
  have hlt : claim.token < next.token := hfirst.resolve_right fun heq => hne heq.1
  rcases List.mem_cons.1 hother with rfl | hrest
  · exact hlt
  · have hle := OwnedToken.le_iff.1 ((List.pairwise_cons.1 hnext).1 other hrest)
    rcases hle with hgreater | ⟨heq, -⟩
    · exact UInt32.lt_trans hlt hgreater
    · exact heq ▸ hlt

theorem pairwise_firstClaims {all : List OwnedToken}
    (hsorted : all.Pairwise fun a b => OwnedToken.le a b = true) :
    (firstClaims all).Pairwise fun a b => a.token < b.token := by
  fun_induction firstClaims all with
  | case1 => exact List.Pairwise.nil
  | case2 claim => exact List.pairwise_singleton _ _
  | case3 claim next rest htoken ih =>
    exact ih (hsorted.sublist ((List.sublist_cons_self next rest).cons_cons claim))
  | case4 claim next rest htoken ih =>
    have hlater := token_lt_of_sorted hsorted (by simpa using htoken)
    exact List.pairwise_cons.2 ⟨fun other hother => hlater other (firstClaims_subset _ hother),
      ih (List.pairwise_cons.1 hsorted).2⟩

/-- A claim is kept when no earlier instance claims the same token. -/
theorem mem_firstClaims_iff {all : List OwnedToken}
    (hsorted : all.Pairwise fun a b => OwnedToken.le a b = true) {claim : OwnedToken} :
    claim ∈ firstClaims all ↔
      claim ∈ all ∧ ∀ other ∈ all, other.token = claim.token → claim.owner ≤ other.owner := by
  fun_induction firstClaims all with
  | case1 => simp
  | case2 only =>
    constructor
    · intro h
      cases List.mem_singleton.1 h
      exact ⟨h, fun other hother _ => by cases List.mem_singleton.1 hother; exact Nat.le_refl _⟩
    · exact fun h => h.1
  | case3 first next rest htoken ih =>
    have htokens : first.token = next.token := by simpa using htoken
    -- The dropped claim has the token of the first one and no smaller owner.
    have howners : first.owner ≤ next.owner := by
      have hle := OwnedToken.le_iff.1 ((List.pairwise_cons.1 hsorted).1 next List.mem_cons_self)
      rcases hle with hlt | ⟨-, hle⟩
      · exact absurd (htokens ▸ hlt) (UInt32.lt_irrefl _)
      · exact hle
    rw [ih (hsorted.sublist ((List.sublist_cons_self next rest).cons_cons first))]
    constructor
    · rintro ⟨hmem, hleast⟩
      refine ⟨List.cons_subset_cons _ (List.subset_cons_self _ _) hmem, fun other hother heq => ?_⟩
      rcases List.mem_cons.1 hother with rfl | hlater
      · exact hleast other List.mem_cons_self heq
      · rcases List.mem_cons.1 hlater with rfl | hrest
        · exact Nat.le_trans (hleast first List.mem_cons_self (htokens.trans heq)) howners
        · exact hleast other (List.mem_cons_of_mem _ hrest) heq
    · rintro ⟨hmem, hleast⟩
      refine ⟨?_, fun other hother heq =>
        hleast other (List.cons_subset_cons _ (List.subset_cons_self _ _) hother) heq⟩
      rcases List.mem_cons.1 hmem with rfl | hlater
      · exact List.mem_cons_self
      · rcases List.mem_cons.1 hlater with rfl | hrest
        · -- The second claim is kept only where it equals the first.
          have howner : first.owner = claim.owner :=
            Nat.le_antisymm howners (hleast first List.mem_cons_self htokens)
          have hclaim : claim = first := by
            cases claim
            cases first
            simp_all
          exact hclaim ▸ List.mem_cons_self
        · exact List.mem_cons_of_mem _ hrest
  | case4 first next rest htoken ih =>
    have hlater := token_lt_of_sorted hsorted (by simpa using htoken)
    rw [List.mem_cons, ih (List.pairwise_cons.1 hsorted).2]
    constructor
    · rintro (rfl | ⟨hmem, hleast⟩)
      · refine ⟨List.mem_cons_self, fun other hother heq => ?_⟩
        rcases List.mem_cons.1 hother with rfl | hrest
        · exact Nat.le_refl _
        · exact absurd (heq ▸ hlater other hrest) (UInt32.lt_irrefl _)
      · refine ⟨List.mem_cons_of_mem _ hmem, fun other hother heq => ?_⟩
        rcases List.mem_cons.1 hother with rfl | hrest
        · exact absurd (heq ▸ hlater claim hmem) (UInt32.lt_irrefl _)
        · exact hleast other hrest heq
    · rintro ⟨hmem, hleast⟩
      rcases List.mem_cons.1 hmem with rfl | hrest
      · exact Or.inl rfl
      · exact Or.inr ⟨hrest, fun other hother heq =>
          hleast other (List.mem_cons_of_mem _ hother) heq⟩

/-! ## Rings that have been built -/

/-- A ring of some instances: its tokens increase, each belongs to its first claimant, and it knows
the addresses of all instances. -/
structure IsRingOf (tokenCount : Nat) (instances : List Instance) (r : Ring) : Prop where
  increasing : r.tokens.Pairwise fun a b => a.token < b.token
  mem_tokens : ∀ claim, claim ∈ r.tokens ↔
    firstClaimant? tokenCount instances claim.token = some claim.owner
  tokens_ne_nil : r.tokens ≠ []
  addresses_eq : r.addresses = instances.map (·.address)
  replicationFactor_pos : 0 < r.replicationFactor

theorem mem_ownedTokens_iff {tokenCount : Nat} {instances : List Instance} {all : List OwnedToken}
    (h : claimsFrom? tokenCount 0 instances = some all) {claim : OwnedToken} :
    claim ∈ ownedTokens all ↔
      firstClaimant? tokenCount instances claim.token = some claim.owner := by
  rw [ownedTokens, mem_firstClaims_iff
    (List.pairwise_mergeSort OwnedToken.le_trans OwnedToken.le_total all),
    firstClaimant?_eq_some_iff]
  simp only [List.mem_mergeSort, mem_claimsFrom? h, Nat.zero_add]
  constructor
  · rintro ⟨⟨position, i, hi, howner, htoken⟩, hleast⟩
    refine ⟨⟨i, howner ▸ hi, htoken⟩, fun earlier other hother hclaims => ?_⟩
    exact hleast ⟨claim.token, earlier⟩ ⟨earlier, other, hother, rfl, hclaims⟩ rfl
  · rintro ⟨⟨i, hi, htoken⟩, hleast⟩
    refine ⟨⟨claim.owner, i, hi, rfl, htoken⟩, ?_⟩
    rintro other ⟨position, j, hj, howner, hclaims⟩ heq
    exact howner ▸ hleast position j hj (heq ▸ hclaims)

theorem firstClaims_ne_nil {all : List OwnedToken} (h : all ≠ []) : firstClaims all ≠ [] := by
  fun_induction firstClaims all with
  | case1 => exact h
  | case2 claim => exact h
  | case3 claim next rest htoken ih => exact ih (List.cons_ne_nil _ _)
  | case4 claim next rest htoken ih => exact List.cons_ne_nil _ _

/-- A claim of anyone keeps the list of all claims from being empty. -/
theorem claimsFrom?_ne_nil_iff {tokenCount : Nat} {instances : List Instance}
    {all : List OwnedToken} (h : claimsFrom? tokenCount 0 instances = some all) :
    all ≠ [] ↔ ∃ i ∈ instances, claims tokenCount i ≠ [] := by
  constructor
  · intro hne
    obtain ⟨claim, hclaim⟩ := List.exists_mem_of_ne_nil _ hne
    obtain ⟨position, i, hi, -, htoken⟩ := (mem_claimsFrom? h).1 hclaim
    exact ⟨i, List.mem_of_getElem? hi, List.ne_nil_of_mem htoken⟩
  · rintro ⟨i, hi, hne⟩
    obtain ⟨token, htoken⟩ := List.exists_mem_of_ne_nil _ hne
    obtain ⟨position, hposition⟩ := List.getElem?_of_mem hi
    have hclaim : ⟨token, position⟩ ∈ all := (mem_claimsFrom? h).2
      ⟨position, i, hposition, (Nat.zero_add _).symm, htoken⟩
    exact List.ne_nil_of_mem hclaim

/-- A ring is built from instances whose tokens are known, if any of them has one and owners are
asked for. -/
theorem exists_build_eq_ok_iff {instances : List Instance} {replicationFactor tokenCount : Nat} :
    (∃ r, build instances replicationFactor tokenCount = .ok r) ↔
      replicationFactor ≠ 0 ∧ (∀ i ∈ instances, (claims? tokenCount i).isSome) ∧
        ∃ i ∈ instances, claims tokenCount i ≠ [] := by
  rw [← @isSome_claimsFrom?_iff tokenCount 0 instances, build]
  by_cases hfactor : replicationFactor = 0
  · simp [hfactor]
  rw [if_neg (by simpa using hfactor)]
  cases hclaims : claimsFrom? tokenCount 0 instances with
  | none => simp
  | some all =>
    rw [← claimsFrom?_ne_nil_iff hclaims]
    cases all <;> simp [hfactor]

/-- A ring that cannot be built is refused for the first thing that is wrong: that no owners are
asked for, that the tokens of an instance are not known, or that there are none at all. -/
theorem of_build_eq_error {instances : List Instance} {replicationFactor tokenCount : Nat}
    {cause : RingError} (h : build instances replicationFactor tokenCount = .error cause) :
    match cause with
    | .zeroReplicationFactor => replicationFactor = 0
    | .endlessGeneration =>
      replicationFactor ≠ 0 ∧ ¬∀ i ∈ instances, (claims? tokenCount i).isSome
    | .empty =>
      replicationFactor ≠ 0 ∧ (∀ i ∈ instances, (claims? tokenCount i).isSome) ∧
        ¬∃ i ∈ instances, claims tokenCount i ≠ [] := by
  rw [← @isSome_claimsFrom?_iff tokenCount 0 instances]
  unfold build at h
  split at h
  · rename_i hfactor
    cases h
    simpa using hfactor
  · rename_i hfactor
    have hfactor : replicationFactor ≠ 0 := by simpa using hfactor
    split at h
    · rename_i hclaims
      cases h
      exact ⟨hfactor, by simp [hclaims]⟩
    · rename_i hclaims
      cases h
      exact ⟨hfactor, by simp [hclaims], fun hsome => (claimsFrom?_ne_nil_iff hclaims).2 hsome rfl⟩
    · cases h

theorem isRingOf_build {instances : List Instance} {replicationFactor tokenCount : Nat} {r : Ring}
    (h : build instances replicationFactor tokenCount = .ok r) :
    r.IsRingOf tokenCount instances := by
  unfold build at h
  split at h
  · cases h
  · rename_i hfactor
    split at h
    · cases h
    · cases h
    · rename_i all hne hclaims
      cases h
      have hall : all.mergeSort OwnedToken.le ≠ [] := by
        intro hnil
        have hperm := List.mergeSort_perm all OwnedToken.le
        rw [hnil] at hperm
        exact hne hperm.nil_eq.symm
      constructor
      case increasing =>
        exact pairwise_firstClaims
          (List.pairwise_mergeSort OwnedToken.le_trans OwnedToken.le_total all)
      case mem_tokens => exact fun claim => mem_ownedTokens_iff hclaims
      case tokens_ne_nil => exact firstClaims_ne_nil hall
      case addresses_eq => rfl
      case replicationFactor_pos => exact Nat.pos_of_ne_zero (by simpa using hfactor)

end MetricLoad.Ring
