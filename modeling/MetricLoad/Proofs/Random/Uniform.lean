import MetricLoad.Random.Uniform
import Mathlib.Algebra.Ring.Nat

/-!
# Uniform draws stay below their bound

A draw is the high half of a product, and one more where a second word carries over.  The carry
needs a low half so large that the high half is still short of the bound, so a draw below a positive
bound is below it whichever words the source gives.  Nothing is said about how the draws are
distributed.
-/

namespace MetricLoad.Random

/-- The high half of a product with a word stays below the other factor. -/
theorem mul_div_lt_of_lt {modulus range x : Nat} (hrange : 0 < range) (hx : x < modulus) :
    x * range / modulus < range := by
  have hmodulus : 0 < modulus := Nat.lt_of_le_of_lt (Nat.zero_le x) hx
  rw [Nat.div_lt_iff_lt_mul hmodulus, Nat.mul_comm range modulus]
  exact Nat.mul_lt_mul_of_pos_right hx hrange

/-- A carry out of the low half is possible only where the high half may still grow. -/
theorem mul_div_succ_lt_of_carry {modulus range x y : Nat} (hrange : 0 < range)
    (hx : x < modulus) (hy : y < modulus)
    (hcarry : modulus ≤ x * range % modulus + y * range / modulus) :
    x * range / modulus + 1 < range := by
  have hsplit : modulus * (x * range / modulus) + x * range % modulus = x * range :=
    Nat.div_add_mod (x * range) modulus
  have hsecond : y * range / modulus < range := mul_div_lt_of_lt hrange hy
  have hfirst : x * range + range ≤ modulus * range := by
    calc
      x * range + range = (x + 1) * range := by rw [Nat.succ_mul]
      _ ≤ modulus * range := Nat.mul_le_mul_right range hx
  have hproduct : modulus * (x * range / modulus + 1) < modulus * range := by
    rw [Nat.mul_succ]
    omega
  exact Nat.lt_of_mul_lt_mul_left hproduct

variable {γ : Type} [Source γ]

/-- A narrow or a wide word fits its width. -/
theorem nextWord_lt {width : Nat} (hwidth : width = 32 ∨ width = 64) (g : γ) :
    (nextWord width g).1 < 2 ^ width := by
  rcases hwidth with rfl | rfl
  · exact (Source.next32 g).1.toNat_lt
  · exact (Source.next64 g).1.toNat_lt

theorem drawBelow_lt {width range : Nat} (hwidth : width = 32 ∨ width = 64)
    (hrange : 0 < range) (g : γ) : (drawBelow width range g).1 < range := by
  have hx := nextWord_lt hwidth g
  have hy := nextWord_lt hwidth (nextWord width g).2
  simp only [drawBelow, Nat.pow_eq]
  split
  · -- The first word leaves the carry open, so a second word is drawn.
    split
    · rename_i hcarry
      exact mul_div_succ_lt_of_carry hrange hx hy hcarry
    · exact mul_div_lt_of_lt hrange hx
  · exact mul_div_lt_of_lt hrange hx

/-- An index that is drawn from a nonempty choice belongs to it. -/
theorem drawIndex_lt {count : Nat} (hcount : 0 < count) (g : γ) :
    (drawIndex count g).1 < count := by
  unfold drawIndex
  apply drawBelow_lt _ hcount
  split
  · exact Or.inl rfl
  · exact Or.inr rfl

end MetricLoad.Random
