import MetricLoad.Proofs.Ring.Ownership
import Mathlib.Algebra.Ring.Nat
import Mathlib.Data.List.Induction
import Mathlib.Data.List.Sort

/-!
# Walks around a ring

A walk from a key visits the tokens of a ring in increasing clockwise distance from the key, each
once, and collects their owners in the order of first appearance.  Two lists of tokens that are
ordered by distance and have the same members are the same list, which is how walks over different
rings are compared.
-/

namespace MetricLoad.Ring

/-! ## First appearances -/

section FirstAppearances

variable {α β : Type} [BEq α] [LawfulBEq α] [BEq β] [LawfulBEq β]

theorem eraseDups_concat_of_mem {l : List α} {a : α} (h : a ∈ l) :
    (l ++ [a]).eraseDups = l.eraseDups := by
  rw [List.eraseDups_append, List.cons_removeAll, if_neg (by simpa using h), List.nil_removeAll,
    List.eraseDups_nil, List.append_nil]

theorem eraseDups_concat_of_not_mem {l : List α} {a : α} (h : a ∉ l) :
    (l ++ [a]).eraseDups = l.eraseDups ++ [a] := by
  rw [List.eraseDups_append, List.cons_removeAll, if_pos (by simpa using h)]
  rfl

theorem nodup_eraseDups (l : List α) : l.eraseDups.Nodup := by
  -- Induction from the end: whether an element appears first depends on what stands before it.
  induction l using List.reverseRecOn with
  | nil => exact List.nodup_nil
  | append_singleton l a ih =>
    by_cases h : a ∈ l
    · rwa [eraseDups_concat_of_mem h]
    · rw [eraseDups_concat_of_not_mem h]
      exact List.Nodup.append ih (List.nodup_singleton a) (by simpa using h)

theorem eraseDups_of_nodup {l : List α} (hl : l.Nodup) : l.eraseDups = l := by
  induction l using List.reverseRecOn with
  | nil => rfl
  | append_singleton l a ih =>
    obtain ⟨hinit, -, hdisjoint⟩ := List.nodup_append.1 hl
    have hnot : a ∉ l := fun h => hdisjoint a h a List.mem_cons_self rfl
    rw [eraseDups_concat_of_not_mem hnot, ih hinit]

theorem eraseDups_filter (p : α → Bool) (l : List α) :
    (l.filter p).eraseDups = l.eraseDups.filter p := by
  induction l using List.reverseRecOn with
  | nil => rfl
  | append_singleton l a ih =>
    rw [List.filter_append]
    by_cases hp : p a = true
    · by_cases h : a ∈ l
      · rw [List.filter_cons_of_pos hp, List.filter_nil, eraseDups_concat_of_mem h,
          eraseDups_concat_of_mem (List.mem_filter.2 ⟨h, hp⟩), ih]
      · rw [List.filter_cons_of_pos hp, List.filter_nil, eraseDups_concat_of_not_mem h,
          eraseDups_concat_of_not_mem fun hmem => h (List.mem_filter.1 hmem).1, ih,
          List.filter_append, List.filter_cons_of_pos hp, List.filter_nil]
    · have hskip : (l ++ [a]).eraseDups.filter p = l.eraseDups.filter p := by
        by_cases h : a ∈ l
        · rw [eraseDups_concat_of_mem h]
        · rw [eraseDups_concat_of_not_mem h, List.filter_append, List.filter_cons_of_neg hp,
            List.filter_nil, List.append_nil]
      rw [List.filter_cons_of_neg hp, List.filter_nil, List.append_nil, ih, hskip]

theorem eraseDups_map {f : α → β} (hf : Function.Injective f) (l : List α) :
    (l.map f).eraseDups = l.eraseDups.map f := by
  induction l using List.reverseRecOn with
  | nil => rfl
  | append_singleton l a ih =>
    rw [List.map_append, List.map_singleton]
    by_cases h : a ∈ l
    · rw [eraseDups_concat_of_mem h, eraseDups_concat_of_mem (List.mem_map_of_mem h), ih]
    · rw [eraseDups_concat_of_not_mem h, eraseDups_concat_of_not_mem (by
        rwa [List.mem_map_of_injective hf]), ih, List.map_append, List.map_singleton]

/-- What has already appeared does not appear again. -/
theorem eraseDups_append_cons_of_mem {l r : List α} {a : α} (h : a ∈ l) :
    (l ++ a :: r).eraseDups = (l ++ r).eraseDups := by
  rw [List.eraseDups_append, List.eraseDups_append, List.cons_removeAll,
    if_neg (by simpa using h)]

/-- Enough first appearances at the beginning of a list decide on the first ones of all of it. -/
theorem take_eraseDups_append {l r : List α} {count : Nat} (h : count ≤ l.eraseDups.length) :
    (l ++ r).eraseDups.take count = l.eraseDups.take count := by
  rw [List.eraseDups_append, List.take_append_of_le_length h]

/-- A new element that is not among the first appearances leaves them to what comes before it. -/
theorem le_length_eraseDups_of_not_mem {l r : List α} {a : α} {count : Nat} (ha : a ∉ l)
    (h : a ∉ (l ++ a :: r).eraseDups.take count) : count ≤ l.eraseDups.length := by
  by_contra hfew
  obtain ⟨more, hmore⟩ : ∃ more, count = l.eraseDups.length + (more + 1) :=
    ⟨count - l.eraseDups.length - 1, by omega⟩
  have happearances : (l ++ a :: r).eraseDups =
      l.eraseDups ++ a :: ((r.removeAll l).filter fun b => !b == a).eraseDups := by
    rw [List.eraseDups_append, List.cons_removeAll, if_pos (by simpa using ha),
      List.eraseDups_cons]
  apply h
  rw [happearances, hmore, List.take_length_add_append, List.take_succ_cons]
  exact List.mem_append_right _ List.mem_cons_self

end FirstAppearances

/-! ## Collecting owners -/

/-- Owners are collected in the order of first appearance. -/
theorem collectOwners_eq_take {limit : Nat} {owners : List Nat} (hnodup : owners.Nodup)
    (hlength : owners.length ≤ limit) (tokens : List OwnedToken) :
    collectOwners limit owners tokens =
      (owners ++ tokens.map (·.owner)).eraseDups.take limit := by
  induction tokens generalizing owners with
  | nil =>
    rw [List.map_nil, List.append_nil, eraseDups_of_nodup hnodup, List.take_of_length_le hlength]
    rfl
  | cons t rest ih =>
    rw [collectOwners, List.map_cons]
    by_cases hfull : owners.length = limit
    · -- The early end: the owners so far are the first ones of any continuation.
      have herase := eraseDups_of_nodup hnodup
      rw [if_pos (by simpa using hfull),
        take_eraseDups_append (by rw [herase]; exact Nat.le_of_eq hfull.symm), herase,
        List.take_of_length_le hlength]
    · rw [if_neg (by simpa using hfull)]
      by_cases hseen : t.owner ∈ owners
      · rw [if_pos (by simpa using hseen), ih hnodup hlength,
          eraseDups_append_cons_of_mem hseen]
      · have hnodup' : (owners ++ [t.owner]).Nodup :=
          List.Nodup.append hnodup (List.nodup_singleton _) (by simpa using hseen)
        have hlength' : (owners ++ [t.owner]).length ≤ limit := by
          rw [List.length_append, List.length_singleton]
          omega
        rw [if_neg (by simpa using hseen), ih hnodup' hlength', List.append_assoc,
          List.singleton_append]

theorem owners_eq_take (r : Ring) (key : UInt32) :
    r.owners key = ((r.walk key).map (·.owner)).eraseDups.take r.replicationFactor := by
  rw [owners, collectOwners_eq_take List.nodup_nil (Nat.zero_le _), List.nil_append]

/-! ## The order of a walk -/

theorem toNat_clockwiseDistance (key token : UInt32) :
    (clockwiseDistance key token).toNat = (2 ^ 32 - key.toNat + token.toNat) % 2 ^ 32 :=
  UInt32.toNat_sub token key

theorem clockwiseDistance_inj {key a b : UInt32}
    (h : clockwiseDistance key a = clockwiseDistance key b) : a = b := by
  have hdistance := congrArg UInt32.toNat h
  have ha := a.toNat_lt
  have hb := b.toNat_lt
  have hkey := key.toNat_lt
  rw [toNat_clockwiseDistance, toNat_clockwiseDistance] at hdistance
  rw [← UInt32.toNat_inj]
  omega

/-- The first token is met before the second on the way clockwise from a key. -/
def IsNearer (key : UInt32) (a b : OwnedToken) : Prop :=
  clockwiseDistance key a.token < clockwiseDistance key b.token

theorem isNearer_iff {key : UInt32} {a b : OwnedToken} :
    IsNearer key a b ↔
      (2 ^ 32 - key.toNat + a.token.toNat) % 2 ^ 32 <
        (2 ^ 32 - key.toNat + b.token.toNat) % 2 ^ 32 := by
  rw [IsNearer, UInt32.lt_iff_toNat_lt, toNat_clockwiseDistance, toNat_clockwiseDistance]

instance (key : UInt32) : Std.Irrefl (IsNearer key) where
  irrefl _ := UInt32.lt_irrefl _

instance (key : UInt32) : Std.Antisymm (IsNearer key) where
  antisymm _ _ hab hba := absurd (UInt32.lt_trans hab hba) (UInt32.lt_irrefl _)

theorem mem_walk {r : Ring} {key : UInt32} {claim : OwnedToken} :
    claim ∈ r.walk key ↔ claim ∈ r.tokens := by
  rw [walk, List.mem_append, or_comm, ← List.mem_append, List.takeWhile_append_dropWhile]

/-- In increasing order, no token is below the key once one is not. -/
theorem le_of_mem_dropWhile {tokens : List OwnedToken} {key : UInt32}
    (hincreasing : tokens.Pairwise fun a b => a.token < b.token) :
    ∀ claim ∈ tokens.dropWhile (·.token < key), key ≤ claim.token := by
  induction tokens with
  | nil => simp
  | cons first rest ih =>
    obtain ⟨hfirst, hrest⟩ := List.pairwise_cons.1 hincreasing
    by_cases hbelow : first.token < key
    · rw [List.dropWhile_cons_of_pos (by simpa using hbelow)]
      exact ih hrest
    · rw [List.dropWhile_cons_of_neg (by simpa using hbelow)]
      have hle : key ≤ first.token := UInt32.not_lt.1 hbelow
      intro claim hclaim
      rcases List.mem_cons.1 hclaim with rfl | hlater
      · exact hle
      · exact UInt32.le_trans hle (UInt32.le_of_lt (hfirst claim hlater))

/-- A walk meets the tokens in the order of their clockwise distance from the key. -/
theorem pairwise_walk {r : Ring} (key : UInt32)
    (hincreasing : r.tokens.Pairwise fun a b => a.token < b.token) :
    (r.walk key).Pairwise (IsNearer key) := by
  have hkey := key.toNat_lt
  have hahead : ∀ claim ∈ r.tokens.dropWhile (·.token < key), key ≤ claim.token :=
    le_of_mem_dropWhile hincreasing
  have hbehind : ∀ claim ∈ r.tokens.takeWhile (·.token < key), claim.token < key :=
    fun claim hclaim => by simpa using List.all_eq_true.1 List.all_takeWhile claim hclaim
  rw [walk, List.pairwise_append]
  refine ⟨?_, ?_, ?_⟩
  · refine (hincreasing.sublist (List.dropWhile_sublist _)).imp_of_mem fun {a b} ha hb hlt => ?_
    have hle := hahead a ha
    have hbound := b.token.toNat_lt
    rw [UInt32.le_iff_toNat_le] at hle
    rw [UInt32.lt_iff_toNat_lt] at hlt
    rw [isNearer_iff]
    omega
  · refine (hincreasing.sublist (List.takeWhile_sublist _)).imp_of_mem fun {a b} _ hb hlt => ?_
    have hbelow := hbehind b hb
    rw [UInt32.lt_iff_toNat_lt] at hlt hbelow
    rw [isNearer_iff]
    omega
  · -- The walk wraps around: what is below the key is farther than all that is not.
    intro a ha b hb
    have hle := hahead a ha
    have hbelow := hbehind b hb
    have hbound := a.token.toNat_lt
    rw [UInt32.le_iff_toNat_le] at hle
    rw [UInt32.lt_iff_toNat_lt] at hbelow
    rw [isNearer_iff]
    omega

/-- Tokens that come before all others of an ordered list are its beginning. -/
theorem prefix_of_isNearer {key : UInt32} {near all : List OwnedToken}
    (hnear : near.Pairwise (IsNearer key)) (hall : all.Pairwise (IsNearer key))
    (hsubset : near ⊆ all) (hfirst : ∀ a ∈ near, ∀ b ∈ all, b ∉ near → IsNearer key a b) :
    near <+: all := by
  -- Both lists are ordered and have the same members.
  have hsplit : near ++ all.filter (· ∉ near) = all := by
    refine List.Pairwise.eq_of_mem_iff (r := IsNearer key) ?_ hall fun a => ?_
    · refine List.pairwise_append.2 ⟨hnear, hall.filter _, fun a ha b hb => ?_⟩
      obtain ⟨hmem, hnot⟩ := List.mem_filter.1 hb
      exact hfirst a ha b hmem (by simpa using hnot)
    · rw [List.mem_append, List.mem_filter, decide_eq_true_iff]
      constructor
      · rintro (ha | ⟨ha, -⟩)
        · exact hsubset ha
        · exact ha
      · intro ha
        by_cases hmem : a ∈ near
        · exact Or.inl hmem
        · exact Or.inr ⟨ha, hmem⟩
  exact ⟨_, hsplit⟩

/-- A walk from a token begins with it. -/
theorem head?_walk_of_mem {r : Ring} {key : UInt32} {owner : Nat}
    (hincreasing : r.tokens.Pairwise fun a b => a.token < b.token)
    (hmem : ⟨key, owner⟩ ∈ r.tokens) : (r.walk key).head? = some ⟨key, owner⟩ := by
  have hpairwise := pairwise_walk key hincreasing
  have hmet : ⟨key, owner⟩ ∈ r.walk key := mem_walk.2 hmem
  cases hwalk : r.walk key with
  | nil =>
    rw [hwalk] at hmet
    cases hmet
  | cons first rest =>
    rw [hwalk] at hmet hpairwise
    rcases List.mem_cons.1 hmet with rfl | hlater
    · rfl
    · have hlt := isNearer_iff.1 ((List.pairwise_cons.1 hpairwise).1 _ hlater)
      have hkey := key.toNat_lt
      rw [show 2 ^ 32 - key.toNat + key.toNat = 2 ^ 32 by omega, Nat.mod_self] at hlt
      exact absurd hlt (Nat.not_lt_zero _)

end MetricLoad.Ring
