import MetricLoad.Text.Utf8
import Mathlib.Data.List.Basic

/-!
# Texts survive their bytes

The bytes of a text are the bytes of its characters one after the other, and reading a character off
the front of its bytes gives the character and leaves what follows it.  There is one case for each
number of bytes.  The ranges of the second byte matter here in one direction only: no character is
refused.
-/

namespace MetricLoad.Text

/-! ## The bytes of a text -/

/-- Bytes are collected from a position on, the ones before it in reverse. -/
theorem toList_loop_eq (a : ByteArray) (position : Nat) (collected : List UInt8) :
    ByteArray.toList.loop a position collected =
      collected.reverse ++ a.data.toList.drop position := by
  fun_induction ByteArray.toList.loop a position collected with
  | case1 position collected hposition ih =>
    have hlength : position < a.data.toList.length := by simpa using hposition
    rw [ih, List.drop_eq_getElem_cons hlength, List.reverse_cons, List.append_assoc,
      List.singleton_append]
    simp [ByteArray.get!, hposition]
  | case2 position collected hposition =>
    have hlength : a.data.toList.length ≤ position := by simpa using Nat.not_lt.1 hposition
    rw [List.drop_eq_nil_of_le hlength, List.append_nil]

theorem bytes_eq_flatMap (s : String) : bytes s = s.toList.flatMap String.utf8EncodeChar := by
  have hencode : s.toUTF8 = s.toList.utf8Encode := by
    rw [String.toUTF8_eq_toByteArray, ← String.toByteArray_ofList, String.ofList_toList]
  rw [bytes, hencode, List.utf8Encode, ByteArray.toList, toList_loop_eq,
    List.toList_data_toByteArray]
  rfl

/-! ## Reading a character -/

/-- A second byte in range continues a character and, behind four of the lead bytes, does not make
an overlong form, a surrogate or too great a number. -/
structure IsSecond (lead b : UInt8) : Prop where
  low : 0x80 ≤ b
  high : b ≤ 0xBF
  overlong₃ : lead = 0xE0 → 0xA0 ≤ b
  surrogate : lead = 0xED → b ≤ 0x9F
  overlong₄ : lead = 0xF0 → 0x90 ≤ b
  tooGreat : lead = 0xF4 → b ≤ 0x8F

theorem IsSecond.not_outside {lead b : UInt8} (h : IsSecond lead b) :
    (b < (secondByteRange lead).1 || b > (secondByteRange lead).2) = false := by
  have hrange : (secondByteRange lead).1 ≤ b ∧ b ≤ (secondByteRange lead).2 := by
    unfold secondByteRange
    simp only [beq_iff_eq]
    split
    · exact ⟨h.overlong₃ ‹_›, h.high⟩
    · split
      · exact ⟨h.low, h.surrogate ‹_›⟩
      · split
        · exact ⟨h.overlong₄ ‹_›, h.high⟩
        · split
          · exact ⟨h.low, h.tooGreat ‹_›⟩
          · exact ⟨h.low, h.high⟩
  rw [Bool.or_eq_false_iff, decide_eq_false_iff_not, decide_eq_false_iff_not]
  exact ⟨UInt8.not_lt.2 hrange.1, UInt8.not_lt.2 hrange.2⟩

section Reading

variable {lead b c d : UInt8} (rest : List UInt8)

theorem firstChar_one (hlead : lead < 0x80) :
    firstChar lead rest = .char (Char.ofNat lead.toNat) rest := by
  simp only [firstChar, if_pos hlead]

/-- A byte that leads several bytes is neither a character of its own nor refused. -/
theorem isLead_of_le (hlow : 0xC2 ≤ lead) (hhigh : lead ≤ 0xF4) :
    ¬ lead < 0x80 ∧ (lead < 0xC2 || lead > 0xF4) = false := by
  constructor
  · exact UInt8.not_lt.2 (UInt8.le_trans (by decide) hlow)
  · rw [Bool.or_eq_false_iff, decide_eq_false_iff_not, decide_eq_false_iff_not]
    exact ⟨UInt8.not_lt.2 hlow, UInt8.not_lt.2 hhigh⟩

theorem firstChar_two (hlow : 0xC2 ≤ lead) (hhigh : lead < 0xE0) (hb : IsSecond lead b) :
    firstChar lead (b :: rest) = .char (Char.ofNat (extendBits (lead.toNat - 0xC0) b)) rest := by
  have hmost : lead ≤ 0xF4 := UInt8.le_trans (UInt8.le_of_lt hhigh) (by decide)
  obtain ⟨hmany, hlead⟩ := isLead_of_le hlow hmost
  simp only [firstChar, if_neg hmany, hlead, hb.not_outside, Bool.false_eq_true, if_false,
    if_pos hhigh]

theorem firstChar_three (hlow : 0xE0 ≤ lead) (hhigh : lead < 0xF0) (hb : IsSecond lead b)
    (hc : isContinuation c = true) :
    firstChar lead (b :: c :: rest) =
      .char (Char.ofNat (extendBits (extendBits (lead.toNat % 16) b) c)) rest := by
  have hleast : 0xC2 ≤ lead := UInt8.le_trans (by decide) hlow
  have hmost : lead ≤ 0xF4 := UInt8.le_trans (UInt8.le_of_lt hhigh) (by decide)
  have hmore : ¬ lead < 0xE0 := UInt8.not_lt.2 hlow
  obtain ⟨hmany, hlead⟩ := isLead_of_le hleast hmost
  simp only [firstChar, if_neg hmany, hlead, hb.not_outside, Bool.false_eq_true, if_false,
    if_neg hmore, hc, Bool.not_true, if_pos hhigh]

theorem firstChar_four (hlow : 0xF0 ≤ lead) (hhigh : lead ≤ 0xF4) (hb : IsSecond lead b)
    (hc : isContinuation c = true) (hd : isContinuation d = true) :
    firstChar lead (b :: c :: d :: rest) =
      .char (Char.ofNat (extendBits (extendBits (extendBits (lead.toNat % 16) b) c) d)) rest := by
  have hleast : 0xC2 ≤ lead := UInt8.le_trans (by decide) hlow
  have hmore : ¬ lead < 0xE0 := UInt8.not_lt.2 (UInt8.le_trans (by decide) hlow)
  have hlong : ¬ lead < 0xF0 := UInt8.not_lt.2 hlow
  obtain ⟨hmany, hlead⟩ := isLead_of_le hleast hhigh
  simp only [firstChar, if_neg hmany, hlead, hb.not_outside, Bool.false_eq_true, if_false,
    if_neg hmore, hc, hd, Bool.not_true, if_neg hlong]

end Reading

/-! ## Characters and their bytes -/

/-- The low six bits of a number, as a byte that continues a character. -/
theorem toNat_continuation (n : Nat) : (UInt8.ofNat (n % 64 + 128)).toNat = n % 64 + 128 :=
  Nat.mod_eq_of_lt (by omega)

theorem isContinuation_ofNat (n : Nat) : isContinuation (UInt8.ofNat (n % 64 + 128)) = true := by
  rw [isContinuation, Bool.and_eq_true, decide_eq_true_iff, decide_eq_true_iff,
    UInt8.le_iff_toNat_le, UInt8.le_iff_toNat_le, toNat_continuation]
  exact ⟨Nat.le_add_left _ _, (by omega : n % 64 + 128 ≤ 191)⟩

theorem extendBits_continuation (high n : Nat) :
    extendBits high (UInt8.ofNat (n % 64 + 128)) = high * 64 + n % 64 := by
  unfold extendBits
  rw [toNat_continuation]
  omega

/-- The second byte of a character, in terms of the numbers that its bytes hold. -/
theorem isSecond_ofNat {lead n : Nat} (hlead : lead < 256) (hE0 : lead = 0xE0 → 32 ≤ n % 64)
    (hED : lead = 0xED → n % 64 < 32) (hF0 : lead = 0xF0 → 16 ≤ n % 64)
    (hF4 : lead = 0xF4 → n % 64 < 16) :
    IsSecond (UInt8.ofNat lead) (UInt8.ofNat (n % 64 + 128)) := by
  have hvalue (x : UInt8) (h : UInt8.ofNat lead = x) : lead = x.toNat := by
    rw [← h, UInt8.toNat_ofNat_of_lt' hlead]
  constructor <;> simp only [UInt8.le_iff_toNat_le, toNat_continuation]
  case low => exact Nat.le_add_left _ _
  case high => exact (by omega : n % 64 + 128 ≤ 191)
  case overlong₃ =>
    intro h
    have hn := hE0 (hvalue _ h)
    exact (by omega : 160 ≤ n % 64 + 128)
  case surrogate =>
    intro h
    have hn := hED (hvalue _ h)
    exact (by omega : n % 64 + 128 ≤ 159)
  case overlong₄ =>
    intro h
    have hn := hF0 (hvalue _ h)
    exact (by omega : 144 ≤ n % 64 + 128)
  case tooGreat =>
    intro h
    have hn := hF4 (hvalue _ h)
    exact (by omega : n % 64 + 128 ≤ 143)

section Encoding

variable {v : Nat} (rest : List UInt8)

theorem firstChar_ofNat_one (hv : v < 0x80) :
    firstChar (UInt8.ofNat v) rest = .char (Char.ofNat v) rest := by
  have hlead : (UInt8.ofNat v).toNat = v := Nat.mod_eq_of_lt (by omega)
  rw [firstChar_one, hlead]
  rw [UInt8.lt_iff_toNat_lt, hlead]
  exact hv

theorem firstChar_ofNat_two (hlow : 0x80 ≤ v) (hhigh : v < 0x800) :
    firstChar (UInt8.ofNat (v / 64 % 32 + 192)) (UInt8.ofNat (v % 64 + 128) :: rest) =
      .char (Char.ofNat v) rest := by
  have hlead : (UInt8.ofNat (v / 64 % 32 + 192)).toNat = v / 64 % 32 + 192 :=
    Nat.mod_eq_of_lt (by omega)
  have hvalue : (v / 64 % 32 + 192 - 0xC0) * 64 + v % 64 = v := by omega
  rw [firstChar_two, hlead, extendBits_continuation, hvalue]
  · rw [UInt8.le_iff_toNat_le, hlead]
    exact (by omega : 194 ≤ v / 64 % 32 + 192)
  · rw [UInt8.lt_iff_toNat_lt, hlead]
    exact (by omega : v / 64 % 32 + 192 < 224)
  · apply isSecond_ofNat <;> omega

/-- A character of three bytes is no surrogate. -/
theorem firstChar_ofNat_three (hlow : 0x800 ≤ v) (hhigh : v < 0x10000)
    (hsurrogate : v < 0xD800 ∨ 0xDFFF < v) :
    firstChar (UInt8.ofNat (v / 4096 % 16 + 224))
        (UInt8.ofNat (v / 64 % 64 + 128) :: UInt8.ofNat (v % 64 + 128) :: rest) =
      .char (Char.ofNat v) rest := by
  have hlead : (UInt8.ofNat (v / 4096 % 16 + 224)).toNat = v / 4096 % 16 + 224 :=
    Nat.mod_eq_of_lt (by omega)
  have hvalue : ((v / 4096 % 16 + 224) % 16 * 64 + v / 64 % 64) * 64 + v % 64 = v := by omega
  rw [firstChar_three, hlead, extendBits_continuation, extendBits_continuation, hvalue]
  · rw [UInt8.le_iff_toNat_le, hlead]
    exact (by omega : 224 ≤ v / 4096 % 16 + 224)
  · rw [UInt8.lt_iff_toNat_lt, hlead]
    exact (by omega : v / 4096 % 16 + 224 < 240)
  · apply isSecond_ofNat <;> omega
  · exact isContinuation_ofNat v

theorem firstChar_ofNat_four (hlow : 0x10000 ≤ v) (hhigh : v < 0x110000) :
    firstChar (UInt8.ofNat (v / 262144 % 8 + 240))
        (UInt8.ofNat (v / 4096 % 64 + 128) :: UInt8.ofNat (v / 64 % 64 + 128) ::
          UInt8.ofNat (v % 64 + 128) :: rest) =
      .char (Char.ofNat v) rest := by
  have hlead : (UInt8.ofNat (v / 262144 % 8 + 240)).toNat = v / 262144 % 8 + 240 :=
    Nat.mod_eq_of_lt (by omega)
  have hvalue : (((v / 262144 % 8 + 240) % 16 * 64 + v / 4096 % 64) * 64 + v / 64 % 64) * 64 +
      v % 64 = v := by omega
  rw [firstChar_four, hlead, extendBits_continuation, extendBits_continuation,
    extendBits_continuation, hvalue]
  · rw [UInt8.le_iff_toNat_le, hlead]
    exact (by omega : 240 ≤ v / 262144 % 8 + 240)
  · rw [UInt8.le_iff_toNat_le, hlead]
    exact (by omega : v / 262144 % 8 + 240 ≤ 244)
  · apply isSecond_ofNat <;> omega
  · exact isContinuation_ofNat (v / 64)
  · exact isContinuation_ofNat v

end Encoding

/-- The bytes of a character give it back, whatever follows them. -/
theorem exists_firstChar_encode (c : Char) (rest : List UInt8) :
    ∃ lead tail, String.utf8EncodeChar c = lead :: tail ∧
      firstChar lead (tail ++ rest) = .char c rest := by
  have hvalid : c.val.toNat < 0xD800 ∨ 0xDFFF < c.val.toNat ∧ c.val.toNat < 0x110000 := c.valid
  have hchar : Char.ofNat c.val.toNat = c := Char.ofNat_toNat c
  simp only [String.utf8EncodeChar]
  generalize c.val.toNat = v at hvalid hchar
  subst hchar
  split
  · exact ⟨_, _, rfl, firstChar_ofNat_one rest (by omega)⟩
  · split
    · exact ⟨_, _, rfl, firstChar_ofNat_two rest (by omega) (by omega)⟩
    · split
      · exact ⟨_, _, rfl, firstChar_ofNat_three rest (by omega) (by omega) (by omega)⟩
      · exact ⟨_, _, rfl, firstChar_ofNat_four rest (by omega) (by omega)⟩

/-- A text has no holes. -/
theorem glyphs_flatMap_encode (chars : List Char) :
    glyphs (chars.flatMap String.utf8EncodeChar) = chars.map some := by
  induction chars with
  | nil => rw [List.flatMap_nil, glyphs_nil, List.map_nil]
  | cons c rest ih =>
    obtain ⟨lead, tail, hencode, hfirst⟩ :=
      exists_firstChar_encode c (rest.flatMap String.utf8EncodeChar)
    rw [List.flatMap_cons, hencode, List.cons_append, glyphs, hfirst, List.map_cons, ← ih]
    rfl

theorem mapM_map_some (chars : List Char) : (chars.map some).mapM id = some chars := by
  induction chars with
  | nil => rfl
  | cons c rest ih =>
    rw [List.map_cons, List.mapM_cons, ih]
    rfl

theorem decodeChars?_flatMap_encode (chars : List Char) :
    decodeChars? (chars.flatMap String.utf8EncodeChar) = some chars := by
  rw [decodeChars?, glyphs_flatMap_encode, mapM_map_some]

/-- Every text is read back from its bytes. -/
@[simp]
theorem decode?_bytes (s : String) : decode? (bytes s) = some s := by
  rw [decode?, bytes_eq_flatMap, decodeChars?_flatMap_encode, Option.map_some, String.ofList_toList]

end MetricLoad.Text
