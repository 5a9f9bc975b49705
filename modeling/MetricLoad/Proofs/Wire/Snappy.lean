import MetricLoad.Wire.Snappy
import MetricLoad.Proofs.Wire.Field

/-!
# Literals are put out again

The compressor cuts its input into literals of at most sixty bytes, so the length of each one stands
in its tag.  Putting them out one after the other gives the input, behind whatever has been put out
before.

A length is a number of 32 bits, so no body has a longer content, whoever compressed it.
-/

namespace MetricLoad.Wire.Snappy

/-- A literal of up to sixty bytes has its length in the tag. -/
theorem readElement_literal {taken : List UInt8} (hpos : 0 < taken.length)
    (hle : taken.length ≤ literalSize) (rest : List UInt8) :
    readElement (4 * (taken.length - 1)).toUInt8 (taken ++ rest) = some (.literal taken, rest) := by
  have hle : taken.length ≤ 60 := hle
  -- The lowest two bits are zero for a literal, the others are its length less one.
  have htag : (4 * (taken.length - 1)).toUInt8.toNat = 4 * (taken.length - 1) :=
    Nat.mod_eq_of_lt (by omega)
  have hkind : 4 * (taken.length - 1) % 4 = 0 := Nat.mul_mod_right _ _
  have hupper : 4 * (taken.length - 1) / 4 = taken.length - 1 :=
    Nat.mul_div_cancel_left _ (by decide)
  have hsmall : taken.length - 1 < 60 := by omega
  have hcount : taken.length - 1 + 1 = taken.length := Nat.sub_add_cancel hpos
  simp only [readElement, htag, hkind, hupper, readLiteral, if_pos hsmall, readFrom, hcount,
    takeBytes_append, Option.map_some]

theorem putElements_cons {tag : UInt8} {tail rest taken : List UInt8}
    (h : readElement tag tail = some (.literal taken, rest)) (out : Array UInt8) :
    putElements (tag :: tail) out = putElements rest (out ++ taken) := by
  rw [putElements]
  split
  · rename_i hnone
    rw [h] at hnone
    cases hnone
  · rename_i hsome
    rw [h] at hsome
    cases hsome
    rfl

theorem putElements_literals (bytes : List UInt8) (out : Array UInt8) :
    putElements (literals bytes) out = some (out ++ bytes) := by
  fun_induction literals bytes generalizing out with
  | case1 =>
    rw [putElements, Array.appendList_nil]
  | case2 first rest taken ih =>
    have hlength : taken.length ≤ literalSize := by
      rw [List.length_cons, List.length_take]
      exact Nat.succ_le_succ (Nat.min_le_left _ _)
    have hbytes : taken ++ rest.drop (literalSize - 1) = first :: rest := by
      rw [List.cons_append, List.take_append_drop]
    -- What is put out so far grows by one literal; the rest of the input follows behind it.
    have hread := readElement_literal (List.length_pos_iff.2 (List.cons_ne_nil _ _)) hlength
      (literals (rest.drop (literalSize - 1)))
    have hout : out ++ taken ++ rest.drop (literalSize - 1) = out ++ (first :: rest) := by
      apply Array.ext'
      rw [Array.toList_appendList, Array.toList_appendList, Array.toList_appendList,
        List.append_assoc, hbytes]
    rw [List.cons_append, putElements_cons hread, ih, hout]

/-- Decompression undoes compression. -/
theorem decompress_compress {bytes body : List UInt8} (h : compress bytes = some body) :
    decompress body = some bytes := by
  unfold compress at h
  split at h
  · rename_i hlength
    cases h
    have hsize : bytes.length < 2 ^ 32 := Nat.lt_succ_of_le hlength
    simp [decompress, readVarint32_varint hsize, putElements_literals]
  · cases h

/-- The content of a body is shorter than a number of 32 bits can be. -/
theorem length_lt_of_decompress {body bytes : List UInt8} (h : decompress body = some bytes) :
    bytes.length < 2 ^ 32 := by
  obtain ⟨⟨length, rest⟩, hlength, hout⟩ := Option.bind_eq_some_iff.1 h
  obtain ⟨out, -, hout⟩ := Option.bind_eq_some_iff.1 hout
  have hbound : length < 128 ^ 4 * 16 := lt_of_readVarintWithin (by decide) hlength
  split at hout
  · rename_i hsize
    cases hout
    rw [Array.length_toList, hsize]
    exact hbound
  · cases hout

end MetricLoad.Wire.Snappy
