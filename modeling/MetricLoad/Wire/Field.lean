import MetricLoad.Wire.Varint

/-!
# Fields of a message

A message body is a sequence of fields.  A key gives the number of a field and the form of its
content: a varint, eight or four bytes, a counted string of bytes, or a group, which runs up to
the end mark of the same number.  Groups nest; the reader counts the open ones and refuses a field
inside too many of them.

Reading a body gives its fields in order.  What a group holds is checked for its form and not kept.
-/

namespace MetricLoad.Wire

/-- The form of a field's content. -/
inductive WireType
  | varint
  | fixed64
  | counted
  | groupStart
  | groupEnd
  | fixed32
  deriving DecidableEq, Repr

namespace WireType

/-- The number of a form in keys. -/
def code : WireType → Nat
  | varint => 0
  | fixed64 => 1
  | counted => 2
  | groupStart => 3
  | groupEnd => 4
  | fixed32 => 5

/-- The form with the given number. -/
def ofCode? : Nat → Option WireType
  | 0 => some varint
  | 1 => some fixed64
  | 2 => some counted
  | 3 => some groupStart
  | 4 => some groupEnd
  | 5 => some fixed32
  | _ => none

end WireType

/-- The content of a field. -/
inductive Content
  | varint (value : UInt64)
  | fixed64 (bits : UInt64)
  | counted (bytes : List UInt8)
  | group
  | fixed32 (bits : UInt32)
  deriving DecidableEq, Repr

/-- A field of a message. -/
structure Field where
  number : Nat
  content : Content
  deriving DecidableEq, Repr

/-- The number that some bytes write, the lowest byte first. -/
def littleEndian : List UInt8 → Nat
  | [] => 0
  | byte :: rest => byte.toNat + 256 * littleEndian rest

/-- The lowest bytes of a number, the lowest one first. -/
def littleEndianBytes : Nat → Nat → List UInt8
  | 0, _ => []
  | count + 1, n => (n % 256).toUInt8 :: littleEndianBytes count (n / 256)

/-- Reads the key of a field: its number and the form of its content.  A key fits 32 bits and no
field has the number zero. -/
def readKey (bytes : List UInt8) : Option ((Nat × WireType) × List UInt8) :=
  (readVarint bytes).bind fun (key, rest) =>
    if key < UInt32.size ∧ 8 ≤ key then
      (WireType.ofCode? (key % 8)).map fun type => ((key / 8, type), rest)
    else none

/-- Splits off a number of bytes. -/
def takeBytes (count : Nat) (bytes : List UInt8) : Option (List UInt8 × List UInt8) :=
  if count ≤ bytes.length then some (bytes.take count, bytes.drop count) else none

/-- Reads a content that is no group. -/
def readPlain (type : WireType) (bytes : List UInt8) : Option (Content × List UInt8) :=
  match type with
  | .varint => (readVarint bytes).map fun (n, rest) => (.varint n.toUInt64, rest)
  | .fixed64 => (takeBytes 8 bytes).map fun (taken, rest) =>
      (.fixed64 (littleEndian taken).toUInt64, rest)
  | .counted => (readVarint bytes).bind fun (count, rest) =>
      (takeBytes count rest).map fun (taken, rest) => (.counted taken, rest)
  | .fixed32 => (takeBytes 4 bytes).map fun (taken, rest) =>
      (.fixed32 (littleEndian taken).toUInt32, rest)
  | .groupStart => none
  | .groupEnd => none

theorem length_readKey_lt {key : Nat × WireType} {bytes rest : List UInt8}
    (h : readKey bytes = some (key, rest)) : rest.length < bytes.length := by
  simp only [readKey, Option.bind_eq_some_iff, Prod.exists] at h
  obtain ⟨k, rest', hread, h⟩ := h
  split at h
  · simp only [Option.map_eq_some_iff, Prod.mk.injEq] at h
    obtain ⟨_, _, _, rfl⟩ := h
    exact length_readVarint_lt hread
  · simp at h

theorem length_takeBytes_le {count : Nat} {bytes taken rest : List UInt8}
    (h : takeBytes count bytes = some (taken, rest)) : rest.length ≤ bytes.length := by
  simp only [takeBytes] at h
  split at h
  · simp only [Option.some.injEq, Prod.mk.injEq] at h
    rw [← h.2]
    simp
  · simp at h

theorem length_readPlain_le {type : WireType} {content : Content} {bytes rest : List UInt8}
    (h : readPlain type bytes = some (content, rest)) : rest.length ≤ bytes.length := by
  cases type
  case groupStart => simp [readPlain] at h
  case groupEnd => simp [readPlain] at h
  case varint =>
    simp only [readPlain, Option.map_eq_some_iff, Prod.exists, Prod.mk.injEq] at h
    obtain ⟨_, _, hread, _, rfl⟩ := h
    exact Nat.le_of_lt (length_readVarint_lt hread)
  case counted =>
    simp only [readPlain, Option.bind_eq_some_iff, Option.map_eq_some_iff, Prod.exists,
      Prod.mk.injEq] at h
    obtain ⟨_, _, hread, _, _, htake, _, rfl⟩ := h
    exact Nat.le_trans (length_takeBytes_le htake) (Nat.le_of_lt (length_readVarint_lt hread))
  all_goals
    simp only [readPlain, Option.map_eq_some_iff, Prod.exists, Prod.mk.injEq] at h
    obtain ⟨_, _, htake, _, rfl⟩ := h
    exact length_takeBytes_le htake

/-- Moves behind the end of the innermost open group and of all groups around it.  `opened` holds
the numbers of the open groups, the innermost first; a field inside `limit` of them is refused. -/
def skipGroups (limit : Nat) (opened : List Nat) (bytes : List UInt8) : Option (List UInt8) :=
  match opened with
  | [] => some bytes
  | innermost :: outer =>
    match _hkey : readKey bytes with
    | none => none
    | some ((number, .groupEnd), rest) =>
      if number = innermost then skipGroups limit outer rest else none
    | some ((number, .groupStart), rest) =>
      if outer.length + 1 < limit then skipGroups limit (number :: innermost :: outer) rest
      else none
    | some ((_, type), rest) =>
      if outer.length + 1 < limit then
        match _hplain : readPlain type rest with
        | none => none
        | some (_, rest) => skipGroups limit (innermost :: outer) rest
      else none
termination_by bytes.length
decreasing_by
  · exact length_readKey_lt _hkey
  · exact length_readKey_lt _hkey
  · exact Nat.lt_of_le_of_lt (length_readPlain_le _hplain) (length_readKey_lt _hkey)

theorem length_skipGroups_le {limit : Nat} {opened : List Nat} {bytes rest : List UInt8}
    (h : skipGroups limit opened bytes = some rest) : rest.length ≤ bytes.length := by
  fun_induction skipGroups limit opened bytes with
  | case1 bytes => simp_all
  | case2 => simp_all
  | case3 bytes innermost outer rest' hkey ih =>
    exact Nat.le_trans (ih h) (Nat.le_of_lt (length_readKey_lt hkey))
  | case4 => simp_all
  | case5 bytes innermost outer number rest' hkey hlt ih =>
    exact Nat.le_trans (ih h) (Nat.le_of_lt (length_readKey_lt hkey))
  | case6 => simp_all
  | case7 => simp_all
  | case8 bytes innermost outer number type rest' _ _ hkey hlt content rest'' hplain ih =>
    exact Nat.le_trans (ih h)
      (Nat.le_trans (length_readPlain_le hplain) (Nat.le_of_lt (length_readKey_lt hkey)))
  | case9 => simp_all

/-- Reads a field; inside of groups, at most `limit` levels of fields are allowed. -/
def readField (limit : Nat) (bytes : List UInt8) : Option (Field × List UInt8) :=
  (readKey bytes).bind fun ((number, type), rest) =>
    match type with
    | .groupStart => (skipGroups limit [number] rest).map fun rest => (⟨number, .group⟩, rest)
    | type => (readPlain type rest).map fun (content, rest) => (⟨number, content⟩, rest)

theorem length_readField_lt {limit : Nat} {field : Field} {bytes rest : List UInt8}
    (h : readField limit bytes = some (field, rest)) : rest.length < bytes.length := by
  simp only [readField, Option.bind_eq_some_iff, Prod.exists] at h
  obtain ⟨number, type, rest', hkey, h⟩ := h
  refine Nat.lt_of_le_of_lt ?_ (length_readKey_lt hkey)
  split at h
  · simp only [Option.map_eq_some_iff, Prod.mk.injEq] at h
    obtain ⟨_, hskip, _, rfl⟩ := h
    exact length_skipGroups_le hskip
  · simp only [Option.map_eq_some_iff, Prod.exists, Prod.mk.injEq] at h
    obtain ⟨_, _, hplain, _, rfl⟩ := h
    exact length_readPlain_le hplain

/-- The fields of a body. -/
def readFields (limit : Nat) (bytes : List UInt8) : Option (List Field) :=
  match bytes with
  | [] => some []
  | byte :: tail =>
    match _h : readField limit (byte :: tail) with
    | none => none
    | some (field, rest) => (readFields limit rest).map (field :: ·)
termination_by bytes.length
decreasing_by exact length_readField_lt _h

/-- The key of a field. -/
def key (number : Nat) (type : WireType) : List UInt8 :=
  varint (8 * number + type.code)

/-- The written form of a field; a group is written without content. -/
def Field.bytes (f : Field) : List UInt8 :=
  match f.content with
  | .varint value => key f.number .varint ++ varint value.toNat
  | .fixed64 bits => key f.number .fixed64 ++ littleEndianBytes 8 bits.toNat
  | .counted content => key f.number .counted ++ varint content.length ++ content
  | .group => key f.number .groupStart ++ key f.number .groupEnd
  | .fixed32 bits => key f.number .fixed32 ++ littleEndianBytes 4 bits.toNat

/-- The written form of some fields. -/
def fieldBytes (fields : List Field) : List UInt8 :=
  fields.flatMap Field.bytes

end MetricLoad.Wire
