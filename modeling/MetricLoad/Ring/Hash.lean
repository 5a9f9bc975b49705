import MetricLoad.Series
import MetricLoad.Text.Utf8

/-!
# Shard tokens

A series is placed on the ring by a 32-bit FNV-1a hash over the tenant and the names and values of
its labels.  The hash of a concatenation is the hash of its parts one after the other, so the
running hash is a left fold over bytes.  The hash depends on the order of the labels;
`sortedShardToken` puts them into the order of their names first, labels of equal name keeping
their order.
-/

namespace MetricLoad.Ring

open MetricLoad.Text

/-- The hash of the empty text. -/
def fnvOffset : UInt32 := 2166136261

/-- The multiplier of the hash. -/
def fnvPrime : UInt32 := 16777619

/-- Adds a byte to a running hash. -/
def fnvByte (hash : UInt32) (byte : UInt8) : UInt32 :=
  (hash ^^^ byte.toUInt32) * fnvPrime

/-- Adds some bytes to a running hash. -/
def fnvBytes (hash : UInt32) (bytes : List UInt8) : UInt32 :=
  bytes.foldl fnvByte hash

/-- Adds a text to a running hash. -/
def fnvAdd (hash : UInt32) (s : String) : UInt32 :=
  fnvBytes hash (bytes s)

/-- Adds the name and the value of a label to a running hash. -/
def fnvLabel (hash : UInt32) (label : Label) : UInt32 :=
  fnvAdd (fnvAdd hash label.name) label.value

/-- The token of a series with its labels in the given order. -/
def shardToken (tenant : String) (labels : List Label) : UInt32 :=
  labels.foldl fnvLabel (fnvAdd fnvOffset tenant)

/-- Labels in the order of their names; labels of equal name keep their order. -/
def sortByName (labels : List Label) : List Label :=
  labels.mergeSort fun a b => bytesLe a.name b.name

/-- The token of a series after sorting its labels by name. -/
def sortedShardToken (tenant : String) (labels : List Label) : UInt32 :=
  shardToken tenant (sortByName labels)

/-- Hashing a concatenation continues the hash of the first part. -/
@[simp]
theorem fnvBytes_append (hash : UInt32) (a b : List UInt8) :
    fnvBytes hash (a ++ b) = fnvBytes (fnvBytes hash a) b := by
  simp [fnvBytes]

end MetricLoad.Ring
