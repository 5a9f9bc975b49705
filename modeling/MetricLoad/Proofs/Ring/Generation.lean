import MetricLoad.Proofs.Ring.Tokens

/-!
# Growing numbers of generated tokens

The tokens of an address are drawn until enough different words have appeared, and whether this
comes to an end hangs on the stream alone.  It does exactly when the stream has that many different
words, and the tokens are then those of its shortest stretch that has them.  The bound on the draws
takes nothing away: behind it the stream begins again.

Fewer tokens take a shorter stretch of the same stream.  So an instance that is to generate more
tokens keeps those that it had.
-/

namespace MetricLoad.Ring

open MetricLoad.Random

/-- Drawing the tokens of an address comes to an end with these tokens, after however many draws. -/
def Generates (addr : String) (count : Nat) (tokens : List UInt32) : Prop :=
  ∃ draws, drawTokens count draws (addressStream addr) [] = some tokens

variable {addr : String} {count fewer : Nat} {tokens : List UInt32} {i : Instance}

theorem generates_iff :
    Generates addr count tokens ↔ ∃ n, (addressStream addr).IsShortestWith count n ∧
      insertWords ((addressStream addr).words n) = tokens := by
  constructor
  · rintro ⟨draws, hdrawn⟩
    obtain ⟨n, -, hn, htokens⟩ := drawTokens_eq_some_iff.1 hdrawn
    exact ⟨n, hn, htokens⟩
  · rintro ⟨n, hn, htokens⟩
    exact ⟨n, drawTokens_eq_some_iff.2 ⟨n, Nat.le_refl n, hn, htokens⟩⟩

/-- The bound on the draws is never what stops them. -/
theorem generateTokens?_eq_some_iff :
    generateTokens? addr count = some tokens ↔ Generates addr count tokens := by
  rw [generates_iff, generateTokens?, drawTokens_eq_some_iff]
  refine exists_congr fun n => and_iff_right_of_imp ?_
  rintro ⟨hn, -⟩
  exact hn.le_period

/-- Drawing comes to an end exactly when the stream has enough different words. -/
theorem exists_generates_iff :
    (∃ tokens, Generates addr count tokens) ↔ ∃ n, count ≤ (addressStream addr).different n := by
  rw [← ChaCha.exists_isShortestWith_iff]
  simp only [generates_iff]
  constructor
  · rintro ⟨_, n, hn, -⟩
    exact ⟨n, hn⟩
  · rintro ⟨n, hn⟩
    exact ⟨_, n, hn, rfl⟩

/-- Drawing fewer tokens comes to an end too, earlier in the stream. -/
theorem Generates.exists_of_le (h : Generates addr count tokens) (hfewer : fewer ≤ count) :
    ∃ kept, Generates addr fewer kept ∧ kept ⊆ tokens := by
  obtain ⟨n, hn, rfl⟩ := generates_iff.1 h
  have hreached : fewer ≤ (addressStream addr).different n := hfewer.trans hn.enough
  obtain ⟨kept, hkept⟩ := exists_generates_iff.2 ⟨n, hreached⟩
  obtain ⟨m, hm, rfl⟩ := generates_iff.1 hkept
  -- Both stretches begin the stream, and the one with fewer different words ends first.
  refine ⟨_, hkept, fun token htoken => ?_⟩
  rw [mem_insertWords_iff] at htoken ⊢
  exact (addressStream addr).words_subset (hm.le_of_le_different hreached) htoken

/-- What an instance without tokens of its own claims are the generated ones. -/
theorem claims?_of_nil (h : i.tokens = []) :
    claims? count i = generateTokens? i.address count := by
  simp [claims?, h]

theorem claims_subset_of_le (h : i.tokens = []) (hends : (claims? count i).isSome)
    (hfewer : fewer ≤ count) :
    (claims? fewer i).isSome ∧ claims fewer i ⊆ claims count i := by
  obtain ⟨tokens, htokens⟩ := Option.isSome_iff_exists.1 hends
  rw [claims?_of_nil h, generateTokens?_eq_some_iff] at htokens
  obtain ⟨kept, hkept, hsubset⟩ := htokens.exists_of_le hfewer
  rw [← generateTokens?_eq_some_iff, ← claims?_of_nil h] at htokens hkept
  rw [claims, claims, htokens, hkept]
  exact ⟨rfl, hsubset⟩

/-- Drawing the tokens of an address comes to an end exactly when its stream has enough different
words; then there are as many tokens as asked for, in increasing order, and they are the words of
the shortest stretch that has so many.  Fewer tokens are among them, so an instance without tokens
of its own loses none when it is to have more.  More than `2 ^ 32` tokens are never found. -/
theorem generated_tokens_grow (addr : String) :
    (∀ count tokens, generateTokens? addr count = some tokens ↔ Generates addr count tokens) ∧
    (∀ count, (∃ tokens, Generates addr count tokens) ↔
      ∃ n, count ≤ (addressStream addr).different n) ∧
    (∀ count tokens, Generates addr count tokens →
      tokens.Pairwise (· < ·) ∧ tokens.length = count ∧
      (∃ n, (addressStream addr).IsShortestWith count n ∧
        ∀ token, token ∈ tokens ↔ token ∈ (addressStream addr).words n) ∧
      ∀ fewer < count, ∃ kept, Generates addr fewer kept ∧ kept ⊆ tokens) ∧
    (∀ i : Instance, i.address = addr → i.tokens = [] →
      ∀ count, (claims? count i).isSome → ∀ fewer ≤ count,
        (claims? fewer i).isSome ∧ claims fewer i ⊆ claims count i) ∧
    ∀ count, 2 ^ 32 < count → ∀ draws, drawTokens count draws (addressStream addr) [] = none := by
  refine ⟨fun _ _ => generateTokens?_eq_some_iff, fun _ => exists_generates_iff, ?_, ?_, ?_⟩
  · intro count tokens htokens
    have hgenerated := generateTokens?_eq_some_iff.2 htokens
    refine ⟨pairwise_generateTokens? hgenerated, length_generateTokens? hgenerated, ?_, ?_⟩
    · obtain ⟨n, hn, rfl⟩ := generates_iff.1 htokens
      exact ⟨n, hn, fun _ => mem_insertWords_iff⟩
    · intro fewer hfewer
      exact htokens.exists_of_le (Nat.le_of_lt hfewer)
  · intro i _ hnone count hends fewer hfewer
    exact claims_subset_of_le hnone hends hfewer
  · intro count hcount draws
    cases hdrawn : drawTokens count draws (addressStream addr) [] with
    | none => rfl
    | some tokens =>
      have hgenerated := generateTokens?_eq_some_iff.2 ⟨draws, hdrawn⟩
      rw [generateTokens?_eq_none hcount] at hgenerated
      cases hgenerated

/-- An instance whose third token lies between the first two. -/
def ingester : Instance :=
  ⟨"ingester-1:9095", []⟩

theorem generated_tokens_grow_between :
    Generates ingester.address 3 [1725371035, 3005942169, 4002926321] ∧
      Generates ingester.address 2 [1725371035, 4002926321] ∧
      [1725371035, 4002926321] ⊆ [1725371035, 3005942169, (4002926321 : UInt32)] ∧
      (claims? 3 ingester).isSome ∧ claims 2 ingester ⊆ claims 3 ingester ∧
      2 ^ 32 < 2 ^ 32 + 1 ∧
      ∀ draws, drawTokens (2 ^ 32 + 1) draws (addressStream ingester.address) [] = none := by
  obtain ⟨hexact, -, hloop, hclaims, hendless⟩ := generated_tokens_grow ingester.address
  have htwo : Generates ingester.address 2 [1725371035, 4002926321] :=
    ⟨2, by decide +kernel⟩
  have hthree : Generates ingester.address 3 [1725371035, 3005942169, 4002926321] :=
    ⟨3, by decide +kernel⟩
  obtain ⟨-, -, -, hfewer⟩ := hloop 3 _ hthree
  obtain ⟨kept, hkept, hsubset⟩ := hfewer 2 (by decide)
  have hsame : some kept = some [1725371035, 4002926321] :=
    ((hexact 2 kept).2 hkept).symm.trans ((hexact 2 _).2 htwo)
  obtain rfl := Option.some.inj hsame
  have hends : (claims? 3 ingester).isSome := by
    rw [claims?_of_nil rfl, (hexact 3 _).2 hthree]
    rfl
  refine ⟨hthree, htwo, hsubset, hends, ?_, by decide, hendless _ (by decide)⟩
  exact (hclaims ingester rfl rfl 3 hends 2 (by decide)).2

end MetricLoad.Ring
