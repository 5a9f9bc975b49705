/-!
# Variable-length numbers

A number is written in groups of seven bits, the lowest group first, one group a byte; the high bit
of a byte says that another one follows.  Numbers of 64 bits take at most ten bytes, and the tenth
byte holds a single bit.  A number need not be written in its shortest form.
-/

namespace MetricLoad.Wire

/-- The shortest form of a number. -/
def varint (n : Nat) : List UInt8 :=
  if n < 128 then [n.toUInt8] else (n % 128 + 128).toUInt8 :: varint (n / 128)
termination_by n
decreasing_by omega

/-- Reads a number of at most `left` bytes.  The byte that is read as the last one possible must be
less than `lastBound`. -/
def readVarintWithin (lastBound : UInt8) : Nat → List UInt8 → Option (Nat × List UInt8)
  | 0, _ => none
  | _ + 1, [] => none
  | left + 1, byte :: rest =>
    if byte < 128 then
      if left = 0 ∧ lastBound ≤ byte then none else some (byte.toNat, rest)
    else
      (readVarintWithin lastBound left rest).map fun (high, rest) =>
        (byte.toNat % 128 + 128 * high, rest)

/-- Reads a number of 64 bits. -/
def readVarint (bytes : List UInt8) : Option (Nat × List UInt8) :=
  readVarintWithin 2 10 bytes

/-- Reads a number of 32 bits. -/
def readVarint32 (bytes : List UInt8) : Option (Nat × List UInt8) :=
  readVarintWithin 16 5 bytes

theorem length_readVarintWithin_lt {lastBound : UInt8} {left n : Nat} {bytes rest : List UInt8}
    (h : readVarintWithin lastBound left bytes = some (n, rest)) : rest.length < bytes.length := by
  induction left generalizing bytes n rest with
  | zero => simp [readVarintWithin] at h
  | succ left ih =>
    cases bytes with
    | nil => simp [readVarintWithin] at h
    | cons byte tail =>
      simp only [readVarintWithin] at h
      split at h
      · split at h
        · simp at h
        · simp only [Option.some.injEq, Prod.mk.injEq] at h
          simp [h.2]
      · simp only [Option.map_eq_some_iff, Prod.exists] at h
        obtain ⟨high, rest', hread, heq⟩ := h
        simp only [Prod.mk.injEq] at heq
        have := ih hread
        rw [heq.2] at this
        simp only [List.length_cons]
        omega

/-- Reading a number moves forward. -/
theorem length_readVarint_lt {n : Nat} {bytes rest : List UInt8}
    (h : readVarint bytes = some (n, rest)) : rest.length < bytes.length :=
  length_readVarintWithin_lt h

end MetricLoad.Wire
