import MetricLoad.Proofs.Random.ChaCha
import MetricLoad.Ring.Clockwise
import Mathlib.Algebra.Ring.Nat
import Mathlib.Data.List.Induction
import Mathlib.Data.List.Perm.Subperm
import Mathlib.Tactic.Common

/-!
# Generated tokens

Drawing tokens stops behind the shortest stretch of the stream with enough different words, and the
tokens are the different words of this stretch.  So there are as many as asked for, all different
and in increasing order.  There are `2 ^ 32` tokens, so the generation of more of them never ends.
-/

namespace MetricLoad.Ring

open MetricLoad.Random

variable {count : Nat} {g : ChaCha} {tokens drawn words : List UInt32} {token t : UInt32}

/-! ## Inserting words -/

theorem mem_insertToken_iff : t ∈ insertToken token tokens ↔ t = token ∨ t ∈ tokens := by
  fun_induction insertToken token tokens with
  | case1 => simp
  | case2 => simp
  | case3 first rest _ heq =>
    obtain rfl : token = first := by simpa using heq
    simp
  | case4 first rest _ _ ih =>
    rw [List.mem_cons, ih, List.mem_cons]
    exact or_left_comm

/-- A token is inserted at its place. -/
theorem pairwise_insertToken (token : UInt32) (h : tokens.Pairwise (· < ·)) :
    (insertToken token tokens).Pairwise (· < ·) := by
  fun_induction insertToken token tokens with
  | case1 => exact List.pairwise_singleton _ _
  | case2 first rest hlt =>
    refine List.pairwise_cons.2 ⟨fun t ht => ?_, h⟩
    rcases List.mem_cons.1 ht with rfl | ht
    · exact hlt
    · exact UInt32.lt_trans hlt ((List.pairwise_cons.1 h).1 t ht)
  | case3 => exact h
  | case4 first rest hlt hne ih =>
    obtain ⟨hfirst, hrest⟩ := List.pairwise_cons.1 h
    refine List.pairwise_cons.2 ⟨fun t ht => ?_, ih hrest⟩
    rcases mem_insertToken_iff.1 ht with rfl | ht
    · exact Std.lt_of_le_of_ne (UInt32.not_lt.1 hlt) fun heq => hne (by simp [heq])
    · exact hfirst t ht

/-- The tokens that some words bring, inserted one after the other. -/
def insertWords (words : List UInt32) : List UInt32 :=
  words.foldl (fun tokens word => insertToken word tokens) []

theorem insertWords_concat (words : List UInt32) (word : UInt32) :
    insertWords (words ++ [word]) = insertToken word (insertWords words) := by
  simp [insertWords]

theorem mem_insertWords_iff : t ∈ insertWords words ↔ t ∈ words := by
  induction words using List.reverseRecOn with
  | nil => rfl
  | append_singleton words word ih =>
    rw [insertWords_concat, mem_insertToken_iff, ih, List.mem_append, List.mem_singleton, or_comm]

theorem pairwise_insertWords (words : List UInt32) :
    (insertWords words).Pairwise (· < ·) := by
  induction words using List.reverseRecOn with
  | nil => exact .nil
  | append_singleton words word ih =>
    rw [insertWords_concat]
    exact pairwise_insertToken word ih

/-- There are as many tokens as different words. -/
theorem length_insertWords (words : List UInt32) :
    (insertWords words).length = words.toFinset.card := by
  have hnodup : (insertWords words).Nodup := by
    refine (pairwise_insertWords words).imp ?_
    rintro a _ hlt rfl
    exact UInt32.lt_irrefl a hlt
  have hset : (insertWords words).toFinset = words.toFinset := by
    ext t
    simp only [List.mem_toFinset, mem_insertWords_iff]
  rw [← List.toFinset_card_of_nodup hnodup, hset]

/-! ## Drawing -/

theorem length_insertWords_words (g : ChaCha) (n : Nat) :
    (insertWords (g.words n)).length = g.different n :=
  length_insertWords (g.words n)

/-- Where there are enough tokens, no word is drawn. -/
theorem drawTokens_of_le (h : count ≤ tokens.length) (draws : Nat) (g : ChaCha) :
    drawTokens count draws g tokens = some tokens := by
  cases draws <;> simp [drawTokens, Nat.not_lt.2 h]

theorem drawTokens_of_lt (h : tokens.length < count) (draws : Nat) (g : ChaCha) :
    drawTokens count (draws + 1) g tokens =
      drawTokens count draws g.advance (insertToken g.next32.1 tokens) := by
  rw [drawTokens, if_pos h]
  rfl

/-- Behind the shortest stretch with enough different words the tokens are those of its words. -/
theorem drawTokens_behind_shortest {n : Nat} (h : g.IsShortestWith count n) (draws : Nat) :
    drawTokens count draws (ChaCha.advance^[n] g) (insertWords (g.words n)) = some drawn ↔
      ∃ m ≤ n + draws, g.IsShortestWith count m ∧ insertWords (g.words m) = drawn := by
  have henough : count ≤ (insertWords (g.words n)).length := by
    rw [length_insertWords_words]
    exact h.enough
  rw [drawTokens_of_le henough, Option.some_inj]
  constructor
  · intro hdrawn
    exact ⟨n, Nat.le_add_right n draws, h, hdrawn⟩
  · rintro ⟨m, -, hm, hdrawn⟩
    rwa [h.unique hm]

/-- Drawing that has gone on for some words without stopping stops behind the shortest stretch with
enough different words, if the bound allows for so many. -/
theorem drawTokens_behind_eq_some_iff {draws n : Nat} (hfew : ∀ m < n, g.different m < count) :
    drawTokens count draws (ChaCha.advance^[n] g) (insertWords (g.words n)) = some drawn ↔
      ∃ m ≤ n + draws, g.IsShortestWith count m ∧ insertWords (g.words m) = drawn := by
  -- Induction on the draws that are left.  What is kept: the tokens are those of the words so far.
  induction draws generalizing n with
  | zero =>
    by_cases henough : count ≤ g.different n
    · exact drawTokens_behind_shortest ⟨henough, hfew⟩ 0
    · have hlt : (insertWords (g.words n)).length < count := by
        rw [length_insertWords_words]
        omega
      simp only [drawTokens, if_pos hlt, reduceCtorEq, false_iff]
      rintro ⟨m, hm, hshortest, -⟩
      have hreached := ChaCha.different_le_of_subset (g.words_subset hm)
      exact henough (hshortest.enough.trans hreached)
  | succ draws ih =>
    by_cases henough : count ≤ g.different n
    · exact drawTokens_behind_shortest ⟨henough, hfew⟩ (draws + 1)
    · have hlt : (insertWords (g.words n)).length < count := by
        rw [length_insertWords_words]
        omega
      have hnext : ∀ m < n + 1, g.different m < count := by
        intro m hm
        rcases Nat.lt_succ_iff_lt_or_eq.1 hm with hm | rfl
        · exact hfew m hm
        · omega
      have hstep : insertToken (ChaCha.advance^[n] g).next32.1 (insertWords (g.words n)) =
          insertWords (g.words (n + 1)) := by
        rw [ChaCha.words_succ, insertWords_concat, ChaCha.word]
      rw [drawTokens_of_lt hlt, hstep, ← Function.iterate_succ_apply' ChaCha.advance, ih hnext,
        Nat.add_right_comm, Nat.add_assoc]

/-- Drawing from a position on gives the tokens of the shortest stretch with enough different words,
if the bound allows for so many. -/
theorem drawTokens_eq_some_iff {draws : Nat} :
    drawTokens count draws g [] = some drawn ↔
      ∃ n ≤ draws, g.IsShortestWith count n ∧ insertWords (g.words n) = drawn := by
  change drawTokens count draws (ChaCha.advance^[0] g) (insertWords (g.words 0)) = some drawn ↔ _
  rw [drawTokens_behind_eq_some_iff fun m hm => absurd hm (Nat.not_lt_zero m), Nat.zero_add]

/-- An instance's generated tokens are as many as asked for and increase. -/
theorem length_generateTokens? {addr : String} {tokens : List UInt32}
    (h : generateTokens? addr count = some tokens) : tokens.length = count := by
  obtain ⟨n, -, hn, rfl⟩ := drawTokens_eq_some_iff.1 h
  rw [length_insertWords_words]
  exact hn.different_eq

theorem pairwise_generateTokens? {addr : String} {tokens : List UInt32}
    (h : generateTokens? addr count = some tokens) : tokens.Pairwise (· < ·) := by
  obtain ⟨n, -, -, rfl⟩ := drawTokens_eq_some_iff.1 h
  exact pairwise_insertWords _

/-- There are not more different tokens than 32 bits can tell apart. -/
theorem length_le_of_pairwise {tokens : List UInt32} (h : tokens.Pairwise (· < ·)) :
    tokens.length ≤ 2 ^ 32 := by
  have hnodup : (tokens.map UInt32.toNat).Nodup := by
    refine List.pairwise_map.2 (h.imp fun hlt => ?_)
    exact Nat.ne_of_lt (UInt32.lt_iff_toNat_lt.1 hlt)
  have hsubset : tokens.map UInt32.toNat ⊆ List.range (2 ^ 32) := by
    intro n hn
    obtain ⟨token, -, rfl⟩ := List.mem_map.1 hn
    exact List.mem_range.2 token.toNat_lt
  calc tokens.length
    _ = (tokens.map UInt32.toNat).length := (List.length_map _).symm
    _ ≤ (List.range (2 ^ 32)).length := (List.subperm_of_subset hnodup hsubset).length_le
    _ = 2 ^ 32 := List.length_range

/-- The generation of more tokens than there are does not end. -/
theorem generateTokens?_eq_none {addr : String} {count : Nat} (h : 2 ^ 32 < count) :
    generateTokens? addr count = none := by
  cases hdrawn : generateTokens? addr count with
  | none => rfl
  | some tokens =>
    have hlength := length_generateTokens? hdrawn
    have hle := length_le_of_pairwise (pairwise_generateTokens? hdrawn)
    omega

/-! ## Claims -/

/-- The claims of an instance are known when it lists tokens or their generation ends. -/
theorem isSome_claims?_iff {tokenCount : Nat} {i : Instance} :
    (claims? tokenCount i).isSome ↔
      (i.tokens = [] → (generateTokens? i.address tokenCount).isSome) := by
  unfold claims?
  by_cases htokens : i.tokens = [] <;> simp [htokens]

/-- An instance claims tokens when it lists some or is to generate some. -/
theorem claims_ne_nil_iff {tokenCount : Nat} {i : Instance} (h : (claims? tokenCount i).isSome) :
    claims tokenCount i ≠ [] ↔ i.tokens ≠ [] ∨ tokenCount ≠ 0 := by
  unfold claims
  unfold claims? at h ⊢
  by_cases htokens : i.tokens = []
  case pos =>
    simp only [htokens, List.isEmpty_nil, if_true] at h ⊢
    obtain ⟨tokens, hgenerated⟩ := Option.isSome_iff_exists.1 h
    rw [hgenerated, Option.getD_some, ← length_generateTokens? hgenerated]
    simp
  case neg => simp [htokens]

end MetricLoad.Ring
