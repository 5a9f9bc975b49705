import MetricLoad.Proofs.Text.Utf8
import Mathlib.Data.List.Basic

/-!
# Texts in the order of their bytes

Of two characters, the greater one has the greater first byte or the same number of bytes, and of
those the first that differs is greater.  So the bytes decide where two texts first differ just as
their characters do, and the order of texts by code point is the order of their bytes.
-/

namespace MetricLoad.Text

theorem cons_ofNat_lt_iff {a b : Nat} (ha : a < 256) (hb : b < 256) {s t : List UInt8} :
    UInt8.ofNat a :: s < UInt8.ofNat b :: t ↔ a < b ∨ a = b ∧ s < t := by
  have hbyte (n : Nat) (hn : n < 256) : (UInt8.ofNat n).toNat = n := Nat.mod_eq_of_lt hn
  rw [List.cons_lt_cons_iff, UInt8.lt_iff_toNat_lt, ← UInt8.toNat_inj, hbyte a ha, hbyte b hb]

/-- The greater character has the greater bytes, whatever follows it. -/
theorem encode_append_lt {c d : Char} (h : c < d) (s t : List UInt8) :
    String.utf8EncodeChar c ++ s < String.utf8EncodeChar d ++ t := by
  have hlt : c.val.toNat < d.val.toNat := UInt32.lt_iff_toNat_lt.1 h
  have hbound : d.val.toNat < 0x110000 := by
    have hvalid : d.val.toNat < 0xD800 ∨ 0xDFFF < d.val.toNat ∧ d.val.toNat < 0x110000 := d.valid
    omega
  simp only [String.utf8EncodeChar]
  generalize c.val.toNat = v at hlt
  generalize d.val.toNat = w at hlt hbound
  -- The groups of six bits that the bytes hold; the uppermost has three bits at most.
  have hgroups (n : Nat) (hn : n < 0x110000) : n / 64 / 64 = n / 4096 ∧
      n / 4096 / 64 = n / 262144 ∧ n / 262144 % 8 = n / 262144 := by omega
  have hv := hgroups v (by omega)
  have hw := hgroups w hbound
  -- More bytes have a greater first byte; of equally many, the first that differs decides.
  split_ifs <;> simp (disch := omega) only [List.cons_append, cons_ofNat_lt_iff] <;> omega

theorem flatMap_encode_lt {s t : List Char} (h : s < t) :
    s.flatMap String.utf8EncodeChar < t.flatMap String.utf8EncodeChar := by
  induction h with
  | @nil c t =>
    obtain ⟨lead, tail, hencode, -⟩ := exists_firstChar_encode c []
    simp [hencode]
  | @rel c s d t hlt => exact encode_append_lt hlt _ _
  | @cons c s t _ ih => exact List.append_left_lt ih

theorem bytes_lt {s t : String} (h : s < t) : bytes s < bytes t := by
  rw [bytes_eq_flatMap, bytes_eq_flatMap]
  exact flatMap_encode_lt h

/-- The order of texts is the order of their bytes. -/
theorem bytes_le_iff {s t : String} : bytes s ≤ bytes t ↔ s ≤ t := by
  constructor
  · intro hle hgreater
    exact hle (bytes_lt hgreater)
  · intro hle hgreater
    by_cases hlt : s < t
    · exact List.lt_asymm (bytes_lt hlt) hgreater
    · obtain rfl := String.le_antisymm hle hlt
      exact List.lt_irrefl _ hgreater

@[simp]
theorem bytesLe_iff {s t : String} : bytesLe s t = true ↔ bytes s ≤ bytes t := by
  rw [bytesLe, decide_eq_true_iff, bytes_le_iff]

end MetricLoad.Text
