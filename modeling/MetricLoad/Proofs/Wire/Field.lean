import MetricLoad.Wire.Field
import Mathlib.Algebra.Ring.Nat
import Mathlib.Data.List.Basic

/-!
# Fields are read back

A reader of a number takes exactly the bytes that were written for it and leaves what follows them,
and so does a reader of a field.  Nothing marks the end of a body, so its fields are read until no
byte is left.

A field can be written if its number fits a key and the length of its content fits a number of 64
bits.  A field inside a body is no longer than the body, so the length of the outermost body decides
for all fields in it.
-/

namespace MetricLoad.Wire

/-! ## Numbers -/

theorem varint_of_lt {n : Nat} (h : n < 128) : varint n = [n.toUInt8] := by
  rw [varint, if_pos h]

theorem varint_of_le {n : Nat} (h : 128 ≤ n) :
    varint n = (n % 128 + 128).toUInt8 :: varint (n / 128) := by
  rw [varint, if_neg (Nat.not_lt.2 h)]

/-- A number is read back if it fits the allowed bytes, of which the last one has a bound. -/
theorem readVarintWithin_varint {lastBound : UInt8} (hbound : lastBound ≤ 128) {left n : Nat}
    (hn : n < 128 ^ left * lastBound.toNat) (rest : List UInt8) :
    readVarintWithin lastBound (left + 1) (varint n ++ rest) = some (n, rest) := by
  have hbound : lastBound.toNat ≤ 128 := UInt8.le_iff_toNat_le.1 hbound
  -- The bytes are counted from the last one possible, which alone has a bound of its own.
  induction left generalizing n with
  | zero =>
    rw [Nat.pow_zero, Nat.one_mul] at hn
    have hbyte : n.toUInt8.toNat = n := Nat.mod_eq_of_lt (by omega)
    have hsmall : n.toUInt8 < 128 := by
      rw [UInt8.lt_iff_toNat_lt, hbyte]
      exact (by omega : n < 128)
    have hlast : ¬ (0 = 0 ∧ lastBound ≤ n.toUInt8) := by
      rw [UInt8.le_iff_toNat_le, hbyte]
      omega
    rw [varint_of_lt (by omega), List.singleton_append, readVarintWithin, if_pos hsmall,
      if_neg hlast, hbyte]
  | succ left ih =>
    rcases Nat.lt_or_ge n 128 with h | h
    · have hbyte : n.toUInt8.toNat = n := Nat.mod_eq_of_lt (by omega)
      have hsmall : n.toUInt8 < 128 := by
        rw [UInt8.lt_iff_toNat_lt, hbyte]
        exact h
      have hnotLast : ¬ (left + 1 = 0 ∧ lastBound ≤ n.toUInt8) := fun hlast =>
        absurd hlast.1 (Nat.succ_ne_zero left)
      rw [varint_of_lt h, List.singleton_append, readVarintWithin, if_pos hsmall,
        if_neg hnotLast, hbyte]
    · -- The upper groups are read first and have one byte less.
      have hbyte : (n % 128 + 128).toUInt8.toNat = n % 128 + 128 := Nat.mod_eq_of_lt (by omega)
      have hlarge : ¬ (n % 128 + 128).toUInt8 < 128 := by
        rw [UInt8.lt_iff_toNat_lt, hbyte]
        exact Nat.not_lt.2 (Nat.le_add_left _ _)
      have hupper : n / 128 < 128 ^ left * lastBound.toNat := by
        rw [Nat.pow_succ', Nat.mul_assoc] at hn
        exact Nat.div_lt_of_lt_mul hn
      have hvalue : (n % 128 + 128) % 128 + 128 * (n / 128) = n := by omega
      rw [varint_of_le h, List.cons_append, readVarintWithin, if_neg hlarge, ih hupper,
        Option.map_some]
      show some (_, rest) = some (n, rest)
      rw [hbyte, hvalue]

@[simp]
theorem readVarint_varint {n : Nat} (hn : n < 2 ^ 64) (rest : List UInt8) :
    readVarint (varint n ++ rest) = some (n, rest) :=
  readVarintWithin_varint (by decide) hn rest

@[simp]
theorem readVarint32_varint {n : Nat} (hn : n < 2 ^ 32) (rest : List UInt8) :
    readVarint32 (varint n ++ rest) = some (n, rest) :=
  readVarintWithin_varint (by decide) hn rest

/-- What can be read fits the allowed bytes. -/
theorem lt_of_readVarintWithin {lastBound : UInt8} (hpos : 0 < lastBound) {left n : Nat}
    {bytes rest : List UInt8} (h : readVarintWithin lastBound (left + 1) bytes = some (n, rest)) :
    n < 128 ^ left * lastBound.toNat := by
  have hpos : 0 < lastBound.toNat := UInt8.lt_iff_toNat_lt.1 hpos
  -- A number that ends early has no upper groups; it still fits, because the bound is not zero.
  induction left generalizing bytes n rest with
  | zero =>
    cases bytes with
    | nil => cases h
    | cons byte tail =>
      simp only [readVarintWithin, true_and, Option.map_none] at h
      split at h
      · split at h
        · cases h
        · rename_i hlast
          cases h
          rw [Nat.pow_zero, Nat.one_mul]
          exact UInt8.lt_iff_toNat_lt.1 (UInt8.not_le.1 hlast)
      · cases h
  | succ left ih =>
    cases bytes with
    | nil => cases h
    | cons byte tail =>
      rw [Nat.pow_succ', Nat.mul_assoc]
      rw [readVarintWithin] at h
      split at h
      · rename_i hsmall
        rw [if_neg (fun hlast => absurd hlast.1 (Nat.succ_ne_zero left))] at h
        cases h
        have hbyte : byte.toNat < 128 := UInt8.lt_iff_toNat_lt.1 hsmall
        have hroom : 0 < 128 ^ left * lastBound.toNat := Nat.mul_pos (Nat.pow_pos (by decide)) hpos
        omega
      · obtain ⟨⟨high, rest'⟩, hread, heq⟩ := Option.map_eq_some_iff.1 h
        cases heq
        have hhigh := ih hread
        have hlow : byte.toNat % 128 < 128 := Nat.mod_lt _ (by decide)
        omega

theorem length_littleEndianBytes (count n : Nat) : (littleEndianBytes count n).length = count := by
  induction count generalizing n with
  | zero => rfl
  | succ count ih => rw [littleEndianBytes, List.length_cons, ih]

theorem littleEndian_littleEndianBytes {count n : Nat} (hn : n < 256 ^ count) :
    littleEndian (littleEndianBytes count n) = n := by
  induction count generalizing n with
  | zero =>
    rw [Nat.pow_zero, Nat.lt_one_iff] at hn
    rw [hn]
    rfl
  | succ count ih =>
    rw [Nat.pow_succ'] at hn
    have hbyte : (n % 256).toUInt8.toNat = n % 256 := Nat.mod_eq_of_lt (Nat.mod_lt _ (by decide))
    rw [littleEndianBytes, littleEndian, hbyte, ih (Nat.div_lt_of_lt_mul hn), Nat.mod_add_div]

@[simp]
theorem takeBytes_append (taken rest : List UInt8) :
    takeBytes taken.length (taken ++ rest) = some (taken, rest) := by
  rw [takeBytes, if_pos (by rw [List.length_append]; exact Nat.le_add_right _ _),
    List.take_left, List.drop_left]

/-! ## Fields -/

@[simp]
theorem WireType.ofCode?_code (type : WireType) : WireType.ofCode? type.code = some type := by
  cases type <;> rfl

theorem WireType.code_lt (type : WireType) : type.code < 8 := by
  cases type <;> decide

/-- Whether a field can be written: its number fits a key, and the length of its content a number of
64 bits. -/
structure Field.Fits (f : Field) : Prop where
  number_pos : 0 < f.number
  number_lt : f.number < 2 ^ 29
  length_lt : ∀ bytes, f.content = .counted bytes → bytes.length < 2 ^ 64

theorem readKey_key {number : Nat} (hpos : 0 < number) (hlt : number < 2 ^ 29) (type : WireType)
    (rest : List UInt8) : readKey (key number type ++ rest) = some ((number, type), rest) := by
  -- The form takes the lowest three bits of a key and the number all others.
  have hcode := type.code_lt
  have hsize : 8 * number + type.code < UInt32.size ∧ 8 ≤ 8 * number + type.code :=
    ⟨(by omega : 8 * number + type.code < 4294967296), by omega⟩
  have hmod : (8 * number + type.code) % 8 = type.code := by omega
  have hdiv : (8 * number + type.code) / 8 = number := by omega
  rw [readKey, key, readVarint_varint (by omega), Option.bind_some]
  simp only [if_pos hsize, hmod, hdiv, WireType.ofCode?_code, Option.map_some]

theorem takeBytes_littleEndianBytes (count n : Nat) (rest : List UInt8) :
    takeBytes count (littleEndianBytes count n ++ rest) =
      some (littleEndianBytes count n, rest) := by
  have htake := takeBytes_append (littleEndianBytes count n) rest
  rwa [length_littleEndianBytes] at htake

theorem readPlain_varint (value : UInt64) (rest : List UInt8) :
    readPlain .varint (varint value.toNat ++ rest) = some (.varint value, rest) := by
  rw [readPlain, readVarint_varint value.toNat_lt, Option.map_some]
  simp

theorem readPlain_counted {bytes : List UInt8} (hlength : bytes.length < 2 ^ 64)
    (rest : List UInt8) :
    readPlain .counted (varint bytes.length ++ bytes ++ rest) = some (.counted bytes, rest) := by
  simp only [readPlain, List.append_assoc, readVarint_varint hlength, Option.bind_some,
    takeBytes_append, Option.map_some]

theorem skipGroups_groupEnd {limit number : Nat} {outer : List Nat} {bytes rest : List UInt8}
    (hkey : readKey bytes = some ((number, .groupEnd), rest)) :
    skipGroups limit (number :: outer) bytes = skipGroups limit outer rest := by
  rw [skipGroups]
  split <;> grind

theorem skipGroups_groupStart {limit number innermost : Nat} {outer : List Nat}
    {bytes rest : List UInt8} (hkey : readKey bytes = some ((number, .groupStart), rest))
    (hlimit : outer.length + 1 < limit) :
    skipGroups limit (innermost :: outer) bytes =
      skipGroups limit (number :: innermost :: outer) rest := by
  rw [skipGroups]
  split <;> grind

theorem skipGroups_plain {limit number innermost : Nat} {outer : List Nat} {type : WireType}
    {content : Content} {bytes rest behind : List UInt8}
    (hkey : readKey bytes = some ((number, type), rest))
    (hplain : readPlain type rest = some (content, behind)) (hlimit : outer.length + 1 < limit) :
    skipGroups limit (innermost :: outer) bytes = skipGroups limit (innermost :: outer) behind := by
  have hend : type ≠ .groupEnd := by
    rintro rfl
    cases hplain
  have hstart : type ≠ .groupStart := by
    rintro rfl
    cases hplain
  rw [skipGroups]
  split <;> grind

theorem skipGroups_key {number : Nat} (hpos : 0 < number) (hlt : number < 2 ^ 29) (limit : Nat)
    (rest : List UInt8) :
    skipGroups limit [number] (key number .groupEnd ++ rest) = some rest := by
  rw [skipGroups_groupEnd (readKey_key hpos hlt .groupEnd rest), skipGroups]

/-- A field is read back, and what follows it is left. -/
theorem readField_bytes {f : Field} (hf : f.Fits) (limit : Nat) (rest : List UInt8) :
    readField limit (f.bytes ++ rest) = some (f, rest) := by
  have hkey := readKey_key hf.number_pos hf.number_lt
  -- The key tells the reader which content to expect, one case for each form.
  obtain ⟨number, content⟩ := f
  cases content with
  | varint value =>
    rw [Field.bytes, List.append_assoc, readField, hkey, Option.bind_some]
    simp only [readPlain_varint, Option.map_some]
  | fixed64 bits =>
    rw [Field.bytes, List.append_assoc, readField, hkey, Option.bind_some]
    have hbits := @littleEndian_littleEndianBytes 8 _ bits.toNat_lt
    simp only [readPlain, takeBytes_littleEndianBytes, hbits, Option.map_some, UInt64.ofNat_toNat]
  | counted bytes =>
    rw [Field.bytes, List.append_assoc, List.append_assoc, readField, hkey, Option.bind_some,
      ← List.append_assoc]
    simp only [readPlain_counted (hf.length_lt bytes rfl), Option.map_some]
  | group =>
    rw [Field.bytes, List.append_assoc, readField, hkey, Option.bind_some]
    simp only [skipGroups_key hf.number_pos hf.number_lt, Option.map_some]
  | fixed32 bits =>
    rw [Field.bytes, List.append_assoc, readField, hkey, Option.bind_some]
    have hbits := @littleEndian_littleEndianBytes 4 _ bits.toNat_lt
    simp only [readPlain, takeBytes_littleEndianBytes, hbits, Option.map_some, UInt32.ofNat_toNat]

theorem readFields_of_readField {limit : Nat} {f : Field} {bytes rest : List UInt8}
    (h : readField limit bytes = some (f, rest)) :
    readFields limit bytes = (readFields limit rest).map (f :: ·) := by
  cases bytes with
  | nil => exact absurd (length_readField_lt h) (Nat.not_lt_zero _)
  | cons byte tail =>
    rw [readFields]
    split
    · rename_i hnone
      rw [h] at hnone
      cases hnone
    · rename_i hsome
      rw [h] at hsome
      cases hsome
      rfl

/-- The fields of a body are read back. -/
theorem readFields_fieldBytes {fields : List Field} (hfields : ∀ f ∈ fields, f.Fits) (limit : Nat) :
    readFields limit (fieldBytes fields) = some fields := by
  induction fields with
  | nil => rw [fieldBytes, List.flatMap_nil, readFields]
  | cons f fields ih =>
    have hread := readField_bytes (hfields f List.mem_cons_self) limit (fieldBytes fields)
    have hrest := ih fun g hg => hfields g (List.mem_cons_of_mem f hg)
    have hbytes : fieldBytes (f :: fields) = f.bytes ++ fieldBytes fields := List.flatMap_cons
    rw [hbytes, readFields_of_readField hread, hrest, Option.map_some]

/-- The content of a field stands in the body as it is. -/
theorem length_counted_le {fields : List Field} {f : Field} (hf : f ∈ fields) {bytes : List UInt8}
    (hcontent : f.content = .counted bytes) : bytes.length ≤ (fieldBytes fields).length := by
  have hfield : bytes.length ≤ f.bytes.length := by
    rw [Field.bytes, hcontent, List.length_append]
    exact Nat.le_add_left _ _
  have hbody : f.bytes.length ≤ (fieldBytes fields).length := by
    rw [fieldBytes, List.flatMap_def]
    exact (List.sublist_flatten_of_mem (List.mem_map_of_mem hf)).length_le
  exact Nat.le_trans hfield hbody

end MetricLoad.Wire
