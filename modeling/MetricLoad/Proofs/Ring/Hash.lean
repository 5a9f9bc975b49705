import MetricLoad.Ring.Hash
import MetricLoad.Proofs.Text.Utf8
import Mathlib.Algebra.Ring.Nat
import Mathlib.Data.List.Basic
import Mathlib.Tactic.Common

/-!
# Shard tokens as hashes

The token of a series is one hash over one list of bytes, those of the tenant followed by the name
and the value of each label.  `fnv1a` is that hash on natural numbers, as it is published.

Adding a byte can be undone.  The prime is odd, so it has an inverse modulo `2 ^ 32`, and exclusive
or is its own inverse.  Different hashes therefore stay different whatever is added to both, and one
hash becomes two different ones when different bytes are added.  Texts that differ in one byte, for
example in a single digit, have different hashes, and so have all series in which only such a text
differs.
-/

namespace MetricLoad.Ring

open MetricLoad.Text

/-- The 32-bit FNV-1a hash of some bytes: every byte is combined with the hash so far by exclusive
or, and the result is multiplied by the prime modulo `2 ^ 32`. -/
def fnv1a (bytes : List UInt8) : Nat :=
  bytes.foldl (fun hash byte => (hash ^^^ byte.toNat) * 16777619 % 2 ^ 32) 2166136261

/-- The bytes of a tenant and of the names and values of some labels, in order. -/
def tokenBytes (tenant : String) (labels : List Label) : List UInt8 :=
  bytes tenant ++ labels.flatMap fun l => bytes l.name ++ bytes l.value

/-! ## One hash of one list of bytes -/

theorem toNat_fnvByte (hash : UInt32) (byte : UInt8) :
    (fnvByte hash byte).toNat = (hash.toNat ^^^ byte.toNat) * 16777619 % 2 ^ 32 := by
  simp [fnvByte, fnvPrime]

theorem toNat_fnvBytes (bytes : List UInt8) : (fnvBytes fnvOffset bytes).toNat = fnv1a bytes := by
  -- The two folds agree from any hash on, not from the offset alone.
  suffices h : ∀ hash : UInt32, (fnvBytes hash bytes).toNat =
      bytes.foldl (fun hash byte => (hash ^^^ byte.toNat) * 16777619 % 2 ^ 32) hash.toNat from
    h fnvOffset
  intro hash
  induction bytes generalizing hash with
  | nil => rfl
  | cons byte rest ih =>
    show (fnvBytes (fnvByte hash byte) rest).toNat = _
    rw [ih, toNat_fnvByte, List.foldl_cons]

theorem foldl_fnvLabel (hash : UInt32) (labels : List Label) :
    labels.foldl fnvLabel hash =
      fnvBytes hash (labels.flatMap fun l => bytes l.name ++ bytes l.value) := by
  induction labels generalizing hash with
  | nil => rfl
  | cons l rest ih =>
    rw [List.foldl_cons, ih, List.flatMap_cons, fnvBytes_append, fnvBytes_append]
    rfl

theorem shardToken_eq_fnvBytes (tenant : String) (labels : List Label) :
    shardToken tenant labels = fnvBytes fnvOffset (tokenBytes tenant labels) := by
  rw [shardToken, foldl_fnvLabel, tokenBytes, fnvBytes_append, fnvAdd]

theorem toNat_shardToken (tenant : String) (labels : List Label) :
    (shardToken tenant labels).toNat = fnv1a (tokenBytes tenant labels) := by
  rw [shardToken_eq_fnvBytes, toNat_fnvBytes]

/-- The hashes of the empty text and of a single letter. -/
example : fnv1a [] = 0x811C9DC5 ∧ fnv1a [0x61] = 0xE40C292C := by
  decide

/-! ## Adding bytes loses nothing -/

/-- The inverse of the prime modulo `2 ^ 32`. -/
def fnvInverse : UInt32 := 0x359C449B

theorem fnvPrime_mul_fnvInverse : fnvPrime * fnvInverse = 1 := by
  decide

theorem fnvByte_mul_fnvInverse (hash : UInt32) (byte : UInt8) :
    fnvByte hash byte * fnvInverse = hash ^^^ byte.toUInt32 := by
  rw [fnvByte, UInt32.mul_assoc, fnvPrime_mul_fnvInverse, UInt32.mul_one]

theorem fnvByte_eq_iff {hash hash' : UInt32} {byte byte' : UInt8} :
    fnvByte hash byte = fnvByte hash' byte' ↔
      hash ^^^ byte.toUInt32 = hash' ^^^ byte'.toUInt32 := by
  constructor
  · intro h
    rw [← fnvByte_mul_fnvInverse, h, fnvByte_mul_fnvInverse]
  · intro h
    rw [fnvByte, h, fnvByte]

theorem fnvByte_left_inj {hash hash' : UInt32} {byte : UInt8} :
    fnvByte hash byte = fnvByte hash' byte ↔ hash = hash' := by
  simp [fnvByte_eq_iff]

theorem fnvByte_right_inj {hash : UInt32} {byte byte' : UInt8} :
    fnvByte hash byte = fnvByte hash byte' ↔ byte = byte' := by
  simp [fnvByte_eq_iff, UInt8.toUInt32_inj]

theorem fnvBytes_left_inj {hash hash' : UInt32} {bytes : List UInt8} :
    fnvBytes hash bytes = fnvBytes hash' bytes ↔ hash = hash' := by
  induction bytes generalizing hash hash' with
  | nil => rfl
  | cons byte rest ih =>
    show fnvBytes (fnvByte hash byte) rest = fnvBytes (fnvByte hash' byte) rest ↔ _
    rw [ih, fnvByte_left_inj]

theorem fnvAdd_injective (s : String) : Function.Injective (fnvAdd · s) := by
  intro hash hash' h
  exact fnvBytes_left_inj.1 h

theorem foldl_fnvLabel_left_inj {hash hash' : UInt32} {labels : List Label} :
    labels.foldl fnvLabel hash = labels.foldl fnvLabel hash' ↔ hash = hash' := by
  rw [foldl_fnvLabel, foldl_fnvLabel, fnvBytes_left_inj]

/-- The labels leave the hashes of two tenants as equal or as different as they were. -/
theorem shardToken_eq_iff {tenant other : String} {labels : List Label} :
    shardToken tenant labels = shardToken other labels ↔
      fnv1a (bytes tenant) = fnv1a (bytes other) := by
  rw [shardToken, shardToken, foldl_fnvLabel_left_inj, ← toNat_fnvBytes, ← toNat_fnvBytes,
    UInt32.toNat_inj]
  rfl

/-! ## Bytes that differ in one place -/

/-- Two lists of bytes of one length that differ in exactly one place. -/
structure DifferInOneByte (s t : List UInt8) : Prop where
  length_eq : s.length = t.length
  place : ∃! i : Nat, s[i]? ≠ t[i]?

/-- Two texts that differ in a single digit. -/
def DifferInOneDigit (s t : String) : Prop :=
  ∃ front back c d, c.isDigit = true ∧ d.isDigit = true ∧ c ≠ d ∧
    s.toList = front ++ c :: back ∧ t.toList = front ++ d :: back

/-- Lists that agree in all places but one have the same front and the same back around it. -/
theorem around_eq_of_getElem?_eq {s t : List UInt8} {i : Nat}
    (h : ∀ j, j ≠ i → s[j]? = t[j]?) :
    s.take i = t.take i ∧ s.drop (i + 1) = t.drop (i + 1) := by
  constructor
  · apply List.ext_getElem?
    intro j
    rw [List.getElem?_take, List.getElem?_take]
    split
    · exact h j (by omega)
    · rfl
  · apply List.ext_getElem?
    intro j
    rw [List.getElem?_drop, List.getElem?_drop]
    exact h _ (by omega)

theorem DifferInOneByte.exists_around {s t : List UInt8} (h : DifferInOneByte s t) :
    ∃ front x y back, x ≠ y ∧ s = front ++ x :: back ∧ t = front ++ y :: back := by
  obtain ⟨hlength, i, hdiffer, honly⟩ := h
  have hsame (j : Nat) (hj : j ≠ i) : s[j]? = t[j]? := by
    by_contra hother
    exact hj (honly j hother)
  have hs : i < s.length := by
    by_contra hout
    apply hdiffer
    rw [List.getElem?_eq_none (by omega), List.getElem?_eq_none (by omega)]
  have ht : i < t.length := by omega
  obtain ⟨hfront, hback⟩ := around_eq_of_getElem?_eq hsame
  refine ⟨s.take i, s[i], t[i], s.drop (i + 1), ?_, ?_, ?_⟩
  · simpa [hs, ht] using hdiffer
  · rw [List.getElem_cons_drop, List.take_append_drop]
  · rw [hfront, hback, List.getElem_cons_drop, List.take_append_drop]

theorem differInOneByte_append {x y : UInt8} (hne : x ≠ y) (front back : List UInt8) :
    DifferInOneByte (front ++ x :: back) (front ++ y :: back) := by
  refine ⟨by simp, front.length, by simpa using hne, ?_⟩
  intro j hdiffer
  -- Before the place the two lists have the same front, and behind it the same back.
  by_contra hj
  apply hdiffer
  rcases Nat.lt_or_gt_of_ne hj with hbefore | hbehind
  · simp [List.getElem?_append_left hbefore]
  · obtain ⟨k, hk⟩ : ∃ k, j - front.length = k + 1 := ⟨j - front.length - 1, by omega⟩
    simp [List.getElem?_append_right (Nat.le_of_lt hbehind), hk]

theorem toNat_le_of_isDigit {c : Char} (h : c.isDigit = true) : c.toNat ≤ 57 := by
  have hrange : 48 ≤ c.toNat ∧ c.toNat ≤ 57 := by
    simpa [Char.isDigit, UInt32.le_iff_toNat_le] using h
  exact hrange.2

theorem encode_of_isDigit {c : Char} (h : c.isDigit = true) :
    String.utf8EncodeChar c = [UInt8.ofNat c.toNat] := by
  have hsmall : c.toNat ≤ 0x7F := Nat.le_trans (toNat_le_of_isDigit h) (by decide)
  exact if_pos hsmall

theorem toNat_byte_of_isDigit {c : Char} (h : c.isDigit = true) :
    (UInt8.ofNat c.toNat).toNat = c.toNat :=
  UInt8.toNat_ofNat_of_lt' (Nat.lt_of_le_of_lt (toNat_le_of_isDigit h) (by decide))

/-- A digit is a single byte, so a text with another digit has another byte there. -/
theorem DifferInOneDigit.differInOneByte {s t : String} (h : DifferInOneDigit s t) :
    DifferInOneByte (bytes s) (bytes t) := by
  obtain ⟨front, back, c, d, hc, hd, hne, hs, ht⟩ := h
  have hbytes : UInt8.ofNat c.toNat ≠ UInt8.ofNat d.toNat := by
    intro heq
    rw [← UInt8.toNat_inj, toNat_byte_of_isDigit hc, toNat_byte_of_isDigit hd,
      Char.toNat_inj] at heq
    exact hne heq
  rw [bytes_eq_flatMap, bytes_eq_flatMap, hs, ht, List.flatMap_append, List.flatMap_append,
    List.flatMap_cons, List.flatMap_cons, encode_of_isDigit hc, encode_of_isDigit hd]
  exact differInOneByte_append hbytes _ _

theorem fnvBytes_ne {s t : List UInt8} (h : DifferInOneByte s t) (hash : UInt32) :
    fnvBytes hash s ≠ fnvBytes hash t := by
  obtain ⟨front, x, y, back, hne, rfl, rfl⟩ := h.exists_around
  intro heq
  rw [fnvBytes_append, fnvBytes_append] at heq
  -- What follows the place is added to both hashes, so it cannot make them equal again.
  have hbytes : fnvByte (fnvBytes hash front) x = fnvByte (fnvBytes hash front) y :=
    fnvBytes_left_inj.1 heq
  exact hne (fnvByte_right_inj.1 hbytes)

/-- The tokens of two series that differ in one byte of one label's value. -/
theorem shardToken_ne {value value' : String} (h : DifferInOneByte (bytes value) (bytes value'))
    (tenant name : String) (before after : List Label) :
    shardToken tenant (before ++ ⟨name, value⟩ :: after) ≠
      shardToken tenant (before ++ ⟨name, value'⟩ :: after) := by
  intro heq
  rw [shardToken, shardToken, List.foldl_append, List.foldl_append, List.foldl_cons,
    List.foldl_cons, foldl_fnvLabel_left_inj] at heq
  exact fnvBytes_ne h _ heq

end MetricLoad.Ring
