import MetricLoad.Random.ChaCha
import Mathlib.Data.Finset.Card
import Mathlib.Dynamics.PeriodicPts.Defs

/-!
# The words of a stream

A stream is drawn from word by word, and its words are numbered by their places.  They come in
blocks of sixteen, and the counter that numbers the blocks has 64 bits.  After `2 ^ 64` blocks it
stands where it began, so the stream of a seed repeats itself after `ChaCha.period` words: whatever
word ever appears has appeared by then.

Among its first words are ever more different ones, by one at most from word to word.  So there is
at most one shortest beginning with a given number of them, and where the number is reached at all
it is reached exactly.
-/

namespace MetricLoad.Random

theorem ChaChaKey.length_blockWords (key : ChaChaKey) (counter : UInt64) :
    (key.blockWords counter).length = 16 := rfl

namespace ChaCha

/-- The position behind the next word. -/
def advance (g : ChaCha) : ChaCha :=
  g.next32.2

/-- The word at a place of the stream, counted from a position. -/
def word (g : ChaCha) (place : Nat) : UInt32 :=
  (advance^[place] g).next32.1

/-- The first words of the stream from a position on. -/
def words (g : ChaCha) (n : Nat) : List UInt32 :=
  (List.range n).map g.word

variable {key : ChaChaKey} {counter : UInt64} {g : ChaCha}

/-- One word more is the word at the next place. -/
theorem words_succ (g : ChaCha) (n : Nat) : g.words (n + 1) = g.words n ++ [g.word n] := by
  simp only [words, List.range_succ, List.map_append, List.map_singleton]

theorem mem_words_iff {w : UInt32} {n : Nat} : w ∈ g.words n ↔ ∃ place < n, g.word place = w := by
  simp [words]

theorem words_subset {m n : Nat} (h : m ≤ n) : g.words m ⊆ g.words n := by
  intro w hw
  obtain ⟨place, hplace, rfl⟩ := mem_words_iff.1 hw
  exact mem_words_iff.2 ⟨place, Nat.lt_of_lt_of_le hplace h, rfl⟩

/-! ## Blocks -/

/-- The unused words of a block come first, one after the other. -/
theorem advance_iterate_unused (unused : List UInt32) :
    advance^[unused.length] ⟨key, counter, unused⟩ = ⟨key, counter, []⟩ := by
  induction unused with
  | nil => rfl
  | cons w rest ih => exact ih

/-- The sixteen words of a block lead to the start of the next one. -/
theorem advance_iterate_block : advance^[16] ⟨key, counter, []⟩ = ⟨key, counter + 1, []⟩ := by
  have hlength := key.length_blockWords counter
  cases hwords : key.blockWords counter with
  | nil => simp [hwords] at hlength
  | cons w rest =>
    -- The first word opens the block, and the other fifteen are its unused ones.
    rw [hwords, List.length_cons] at hlength
    have hfirst : advance ⟨key, counter, []⟩ = ⟨key, counter + 1, rest⟩ := by
      simp [advance, next32, hwords]
    calc advance^[16] ⟨key, counter, []⟩
      _ = advance^[15] (advance ⟨key, counter, []⟩) := Function.iterate_succ_apply ..
      _ = advance^[rest.length] ⟨key, counter + 1, rest⟩ := by
        rw [hfirst, Nat.succ.inj hlength]
      _ = ⟨key, counter + 1, []⟩ := advance_iterate_unused rest

theorem advance_iterate_blocks (n : Nat) :
    advance^[16 * n] ⟨key, counter, []⟩ = ⟨key, counter + UInt64.ofNat n, []⟩ := by
  induction n with
  | zero => simp
  | succ n ih =>
    rw [Nat.mul_succ, Nat.add_comm, Function.iterate_add_apply, ih, advance_iterate_block]
    simp [UInt64.ofNat_add, UInt64.add_assoc]

/-! ## The period -/

/-- After all values of its counter the stream of a seed stands where it began. -/
theorem isPeriodicPt_ofSeed (seed : UInt64) :
    Function.IsPeriodicPt advance period (ofSeed seed) := by
  have hwrapped : UInt64.ofNat UInt64.size = 0 := rfl
  change advance^[16 * UInt64.size] (ofSeed seed) = ofSeed seed
  rw [ofSeed, advance_iterate_blocks, hwrapped, UInt64.add_zero]

theorem word_mod_period (seed : UInt64) (place : Nat) :
    (ofSeed seed).word (place % period) = (ofSeed seed).word place := by
  rw [word, word, (isPeriodicPt_ofSeed seed).iterate_mod_apply]

/-- No word appears for the first time after the period. -/
theorem words_subset_period (seed : UInt64) (n : Nat) :
    (ofSeed seed).words n ⊆ (ofSeed seed).words period := by
  intro w hw
  obtain ⟨place, -, rfl⟩ := mem_words_iff.1 hw
  have hpositive : 0 < period := by decide
  exact mem_words_iff.2 ⟨place % period, Nat.mod_lt place hpositive, word_mod_period seed place⟩

/-! ## Different words -/

/-- How many different words there are among the first ones. -/
def different (g : ChaCha) (n : Nat) : Nat :=
  (g.words n).toFinset.card

theorem different_le_of_subset {g' : ChaCha} {m n : Nat} (h : g.words m ⊆ g'.words n) :
    g.different m ≤ g'.different n :=
  Finset.card_le_card fun _ hw => List.mem_toFinset.2 (h (List.mem_toFinset.1 hw))

/-- A further word is a new one or not. -/
theorem different_succ_le (g : ChaCha) (n : Nat) : g.different (n + 1) ≤ g.different n + 1 := by
  have hinsert : (g.words (n + 1)).toFinset = insert (g.word n) (g.words n).toFinset := by
    ext w
    simp [words_succ]
  rw [different, hinsert]
  exact Finset.card_insert_le _ _

/-- A number of words is the first one with so many different words among them. -/
structure IsShortestWith (count : Nat) (g : ChaCha) (n : Nat) : Prop where
  enough : count ≤ g.different n
  shortest : ∀ m < n, g.different m < count

variable {count n : Nat}

/-- Where there are more different words, the number of words has been reached before. -/
theorem IsShortestWith.le_of_le_different (h : IsShortestWith count g n) {m : Nat}
    (hm : count ≤ g.different m) : n ≤ m := by
  by_contra hlt
  exact absurd (h.shortest m (Nat.lt_of_not_le hlt)) (Nat.not_lt.2 hm)

theorem IsShortestWith.unique (h : IsShortestWith count g n) {m : Nat}
    (hm : IsShortestWith count g m) : n = m :=
  Nat.le_antisymm (h.le_of_le_different hm.enough) (hm.le_of_le_different h.enough)

/-- The number of different words is met exactly, since they get more one by one. -/
theorem IsShortestWith.different_eq (h : IsShortestWith count g n) : g.different n = count := by
  refine Nat.le_antisymm ?_ h.enough
  cases n with
  | zero => exact Nat.zero_le count
  | succ n =>
    have hbefore := h.shortest n (Nat.lt_succ_self n)
    have hstep := g.different_succ_le n
    omega

theorem exists_isShortestWith_iff :
    (∃ n, IsShortestWith count g n) ↔ ∃ n, count ≤ g.different n := by
  constructor
  · rintro ⟨n, h⟩
    exact ⟨n, h.enough⟩
  · intro hreached
    refine ⟨Nat.find hreached, Nat.find_spec hreached, fun m hm => ?_⟩
    exact Nat.lt_of_not_le (Nat.find_min hreached hm)

/-- What is reached at all is reached within the period. -/
theorem IsShortestWith.le_period {seed : UInt64} (h : IsShortestWith count (ofSeed seed) n) :
    n ≤ period := by
  apply h.le_of_le_different
  calc count
    _ ≤ (ofSeed seed).different n := h.enough
    _ ≤ (ofSeed seed).different period := different_le_of_subset (words_subset_period seed n)

end ChaCha
end MetricLoad.Random
