/-!
# UTF-8

Decoding of byte lists.  `firstChar` reads one character off the front, and either gives the
character or says how many bytes form the longest beginning of a character that stopped short.
`glyphs` reads on behind those bytes, so that one damaged character leaves one hole.  Strict decoding
refuses holes; lossy decoding puts U+FFFD into each of them.
-/

namespace MetricLoad.Text

/-- The bytes of a text. -/
def bytes (s : String) : List UInt8 :=
  s.toUTF8.toList

/-- The number of bytes of some characters. -/
def byteCount : List Char → Nat
  | [] => 0
  | c :: rest => c.utf8Size + byteCount rest

theorem byteCount_append (s t : List Char) : byteCount (s ++ t) = byteCount s + byteCount t := by
  induction s with
  | nil => simp [byteCount]
  | cons c rest ih => rw [List.cons_append, byteCount, byteCount, ih, Nat.add_assoc]

theorem byteCount_toList (s : String) : byteCount s.toList = s.utf8ByteSize := by
  suffices h : ∀ l : List Char, byteCount l = (String.ofList l).utf8ByteSize by
    rw [h, String.ofList_toList]
  intro l
  induction l with
  | nil => rfl
  | cons c rest ih =>
    rw [byteCount, ih, String.ofList_cons, String.utf8ByteSize_append, String.utf8ByteSize_singleton]

/-- What stands at the front of a byte list. -/
inductive FirstChar
  /-- A whole character and the bytes after it. -/
  | char (c : Char) (rest : List UInt8)
  /-- Bytes that begin no character, as the bytes after them. -/
  | damaged (rest : List UInt8)

/-- The second byte that may follow a lead byte, as its least and greatest value. -/
def secondByteRange (lead : UInt8) : UInt8 × UInt8 :=
  if lead == 0xE0 then (0xA0, 0xBF)
  else if lead == 0xED then (0x80, 0x9F)
  else if lead == 0xF0 then (0x90, 0xBF)
  else if lead == 0xF4 then (0x80, 0x8F)
  else (0x80, 0xBF)

/-- Whether a byte continues a character. -/
def isContinuation (b : UInt8) : Bool :=
  0x80 ≤ b && b ≤ 0xBF

/-- Six more low bits of a character under construction. -/
def extendBits (high : Nat) (b : UInt8) : Nat :=
  high * 64 + (b.toNat - 0x80)

/-- The first character of a non-empty byte list.  The ranges of the second byte exclude overlong
forms, surrogates and numbers above U+10FFFF, so every complete sequence is a character. -/
def firstChar (lead : UInt8) (rest : List UInt8) : FirstChar :=
  let (low, high) := secondByteRange lead
  if lead < 0x80 then .char (Char.ofNat lead.toNat) rest
  else if lead < 0xC2 || lead > 0xF4 then .damaged rest
  else match rest with
    | [] => .damaged []
    | b :: rest₂ =>
      if b < low || b > high then .damaged rest
      else if lead < 0xE0 then .char (Char.ofNat (extendBits (lead.toNat - 0xC0) b)) rest₂
      else
        let two := extendBits (lead.toNat % 16) b
        match rest₂ with
        | [] => .damaged []
        | c :: rest₃ =>
          if !isContinuation c then .damaged rest₂
          else if lead < 0xF0 then .char (Char.ofNat (extendBits two c)) rest₃
          else match rest₃ with
            | [] => .damaged []
            | d :: rest₄ =>
              if !isContinuation d then .damaged rest₃
              else .char (Char.ofNat (extendBits (extendBits two c) d)) rest₄

/-- The first character, unless it is damaged. -/
def FirstChar.glyph : FirstChar → Option Char
  | .char c _ => some c
  | .damaged _ => none

/-- The bytes left after the first character or the damaged bytes. -/
def FirstChar.rest : FirstChar → List UInt8
  | .char _ rest => rest
  | .damaged rest => rest

/-- Reading one character always moves forward. -/
theorem length_rest_firstChar_le (lead : UInt8) (rest : List UInt8) :
    (firstChar lead rest).rest.length ≤ rest.length := by
  unfold firstChar
  simp only
  repeat' split
  all_goals simp [FirstChar.rest] <;> omega

/-- A character, or a hole where some bytes are none. -/
abbrev Glyph := Option Char

/-- The characters of a byte list, with a hole for each damaged sequence. -/
def glyphs : List UInt8 → List Glyph
  | [] => []
  | lead :: rest => (firstChar lead rest).glyph :: glyphs (firstChar lead rest).rest
termination_by bytes => bytes.length
decreasing_by exact Nat.lt_succ_of_le (length_rest_firstChar_le lead rest)

@[simp]
theorem glyphs_nil : glyphs [] = [] := by
  rw [glyphs]

/-- The characters of a byte list, or none when some bytes are damaged. -/
def decodeChars? (bytes : List UInt8) : Option (List Char) :=
  (glyphs bytes).mapM id

/-- The text that a byte list spells, when it is well formed. -/
def decode? (bytes : List UInt8) : Option String :=
  (decodeChars? bytes).map String.ofList

/-- The characters of a byte list, with U+FFFD for each damaged sequence. -/
def decodeLossyChars (bytes : List UInt8) : List Char :=
  (glyphs bytes).map (·.getD '\uFFFD')

@[simp]
theorem decodeLossyChars_nil : decodeLossyChars [] = [] := by
  rw [decodeLossyChars, glyphs_nil, List.map_nil]

/-- The order of two texts by their bytes, which is the order by code point. -/
def bytesLe (a b : String) : Bool :=
  a ≤ b

end MetricLoad.Text
