import MetricLoad.Wire.Field

/-!
# Compressed bodies

A compressed body begins with the length of its content.  Then follow literal bytes and copies of
bytes that have already been put out.  A copy may reach into the bytes that it puts out itself, so a
short pattern can be repeated.  The content must have exactly the stated length.

The compressor writes literals only.
-/

namespace MetricLoad.Wire.Snappy

/-- The greatest length of a content. -/
def maxLength : Nat := UInt32.size - 1

/-- An element of a compressed body. -/
inductive Element
  | literal (bytes : List UInt8)
  | copy (offset length : Nat)

/-- Reads an element that is made from the next `count` bytes. -/
def readFrom (count : Nat) (make : List UInt8 → Element) (bytes : List UInt8) :
    Option (Element × List UInt8) :=
  (takeBytes count bytes).map fun (taken, rest) => (make taken, rest)

/-- Reads the literal behind a tag with the given number in its upper bits.  A length of sixty and
more stands in up to four bytes of its own. -/
def readLiteral (size : Nat) (bytes : List UInt8) : Option (Element × List UInt8) :=
  if size < 60 then readFrom (size + 1) .literal bytes
  else (takeBytes (size - 59) bytes).bind fun (length, rest) =>
    readFrom (littleEndian length + 1) .literal rest

/-- Reads an element. -/
def readElement (tag : UInt8) (bytes : List UInt8) : Option (Element × List UInt8) :=
  let upper := tag.toNat / 4
  match tag.toNat % 4 with
  | 0 => readLiteral upper bytes
  | 1 =>
    readFrom 1 (fun taken => .copy (upper / 8 * 256 + littleEndian taken) (4 + upper % 8)) bytes
  | 2 => readFrom 2 (fun taken => .copy (littleEndian taken) (1 + upper)) bytes
  | _ => readFrom 4 (fun taken => .copy (littleEndian taken) (1 + upper)) bytes

theorem length_readFrom_le {count : Nat} {make : List UInt8 → Element} {element : Element}
    {bytes rest : List UInt8} (h : readFrom count make bytes = some (element, rest)) :
    rest.length ≤ bytes.length := by
  simp only [readFrom, Option.map_eq_some_iff, Prod.exists, Prod.mk.injEq] at h
  obtain ⟨_, _, htake, _, rfl⟩ := h
  exact length_takeBytes_le htake

theorem length_readLiteral_le {size : Nat} {element : Element} {bytes rest : List UInt8}
    (h : readLiteral size bytes = some (element, rest)) : rest.length ≤ bytes.length := by
  unfold readLiteral at h
  split at h
  · exact length_readFrom_le h
  · obtain ⟨_, htake, h⟩ := Option.bind_eq_some_iff.mp h
    exact Nat.le_trans (length_readFrom_le h) (length_takeBytes_le htake)

theorem length_readElement_le {tag : UInt8} {element : Element} {bytes rest : List UInt8}
    (h : readElement tag bytes = some (element, rest)) : rest.length ≤ bytes.length := by
  simp only [readElement] at h
  split at h
  · exact length_readLiteral_le h
  all_goals exact length_readFrom_le h

/-- Puts out `count` bytes, each a copy of the one `offset` places before. -/
def copyBytes (offset : Nat) : Nat → Array UInt8 → Array UInt8
  | 0, out => out
  | count + 1, out => copyBytes offset count (out.push (out.getD (out.size - offset) 0))

/-- Puts out an element.  A copy must not reach before the first byte. -/
def putElement (element : Element) (out : Array UInt8) : Option (Array UInt8) :=
  match element with
  | .literal bytes => some (out ++ bytes)
  | .copy offset length =>
    if 1 ≤ offset ∧ offset ≤ out.size then some (copyBytes offset length out) else none

/-- Puts out the elements of a body. -/
def putElements (bytes : List UInt8) (out : Array UInt8) : Option (Array UInt8) :=
  match bytes with
  | [] => some out
  | tag :: tail =>
    match _h : readElement tag tail with
    | none => none
    | some (element, rest) =>
      match putElement element out with
      | none => none
      | some out => putElements rest out
termination_by bytes.length
decreasing_by
  have := length_readElement_le _h
  simp only [List.length_cons]
  omega

/-- The content of a compressed body. -/
def decompress (bytes : List UInt8) : Option (List UInt8) :=
  (readVarint32 bytes).bind fun (length, rest) =>
    (putElements rest #[]).bind fun out =>
      if out.size = length then some out.toList else none

/-- The number of bytes in one literal. -/
def literalSize : Nat := 60

/-- Some bytes as literals. -/
def literals (bytes : List UInt8) : List UInt8 :=
  match bytes with
  | [] => []
  | first :: rest =>
    let taken := first :: rest.take (literalSize - 1)
    (4 * (taken.length - 1)).toUInt8 :: taken ++ literals (rest.drop (literalSize - 1))
termination_by bytes.length
decreasing_by
  simp only [List.length_drop, List.length_cons]
  omega

/-- The compressed form of some bytes; too many of them have none. -/
def compress (bytes : List UInt8) : Option (List UInt8) :=
  if bytes.length ≤ maxLength then some (varint bytes.length ++ literals bytes) else none

end MetricLoad.Wire.Snappy
