import MetricLoad.Proofs.Text.Utf8

/-!
# Damaged bytes

Lossy decoding gives every whole character as it is and puts U+FFFD in place of the bytes that form
none.  A character takes as many bytes as its text has, while U+FFFD may have three times as many as
the bytes that it replaces.  The beginning of a character that is cut off is replaced once.
-/

namespace MetricLoad.Text

/-! ## Sizes -/

theorem toNat_ofNat_le (n : Nat) : (Char.ofNat n).toNat ≤ n := by
  by_cases hvalid : n.isValidChar
  · rw [Char.ofNat, dif_pos hvalid]
    exact Nat.le_refl n
  · rw [Char.ofNat, dif_neg hvalid]
    exact Nat.zero_le n

/-- A code point of few bits takes few bytes. -/
theorem utf8Size_ofNat_le (n : Nat) :
    (n < 0x80 → (Char.ofNat n).utf8Size ≤ 1) ∧ (n < 0x800 → (Char.ofNat n).utf8Size ≤ 2) ∧
      (n < 0x10000 → (Char.ofNat n).utf8Size ≤ 3) := by
  have hn : (Char.ofNat n).val.toNat ≤ n := toNat_ofNat_le n
  -- The size is chosen by the same three bounds.
  unfold Char.utf8Size
  simp only [UInt32.le_iff_toNat_le, UInt32.toNat_ofNatLT]
  split
  · omega
  · split
    · omega
    · split <;> omega

theorem extendBits_lt {high bound : Nat} (hhigh : high < bound) {b : UInt8} (hb : b ≤ 0xBF) :
    extendBits high b < bound * 64 := by
  have hlow : b.toNat ≤ 191 := UInt8.le_iff_toNat_le.1 hb
  unfold extendBits
  omega

/-! ## Whole characters -/

theorem le_secondByteRange_fst (lead : UInt8) : 0x80 ≤ (secondByteRange lead).1 := by
  unfold secondByteRange
  repeat' split
  all_goals decide

theorem secondByteRange_snd_le (lead : UInt8) : (secondByteRange lead).2 ≤ 0xBF := by
  unfold secondByteRange
  repeat' split
  all_goals decide

theorem isSecond_of_not_outside {lead b : UInt8}
    (h : ¬ (b < (secondByteRange lead).1 || b > (secondByteRange lead).2) = true) :
    IsSecond lead b := by
  rw [Bool.or_eq_true, decide_eq_true_iff, decide_eq_true_iff, not_or, UInt8.not_lt,
    UInt8.not_lt] at h
  obtain ⟨hlow, hhigh⟩ := h
  constructor
  case low => exact UInt8.le_trans (le_secondByteRange_fst lead) hlow
  case high => exact UInt8.le_trans hhigh (secondByteRange_snd_le lead)
  case overlong₃ => rintro rfl; exact hlow
  case surrogate => rintro rfl; exact hhigh
  case overlong₄ => rintro rfl; exact hlow
  case tooGreat => rintro rfl; exact hhigh

/-- A character at the front of some bytes and what follows it, by the number of its bytes. -/
inductive IsCharBehind (lead : UInt8) : List UInt8 → Char → List UInt8 → Prop
  | one {rest : List UInt8} (hlead : lead < 0x80) :
      IsCharBehind lead rest (Char.ofNat lead.toNat) rest
  | two {b : UInt8} {rest : List UInt8} (hlow : 0xC2 ≤ lead) (hhigh : lead < 0xE0)
      (hb : IsSecond lead b) :
      IsCharBehind lead (b :: rest) (Char.ofNat (extendBits (lead.toNat - 0xC0) b)) rest
  | three {b c : UInt8} {rest : List UInt8} (hlow : 0xE0 ≤ lead) (hhigh : lead < 0xF0)
      (hb : IsSecond lead b) (hc : isContinuation c = true) :
      IsCharBehind lead (b :: c :: rest)
        (Char.ofNat (extendBits (extendBits (lead.toNat % 16) b) c)) rest
  | four {b c d : UInt8} {rest : List UInt8} (hlow : 0xF0 ≤ lead) (hhigh : lead ≤ 0xF4)
      (hb : IsSecond lead b) (hc : isContinuation c = true) (hd : isContinuation d = true) :
      IsCharBehind lead (b :: c :: d :: rest)
        (Char.ofNat (extendBits (extendBits (extendBits (lead.toNat % 16) b) c) d)) rest

theorem isCharBehind_of_firstChar {lead : UInt8} {rest rest' : List UInt8} {x : Char}
    (h : firstChar lead rest = .char x rest') : IsCharBehind lead rest x rest' := by
  unfold firstChar at h
  simp only at h
  split at h
  · obtain ⟨rfl, rfl⟩ := FirstChar.char.inj h
    exact .one ‹_›
  split at h
  · cases h
  rename_i hmany hlead
  rw [Bool.or_eq_true, decide_eq_true_iff, decide_eq_true_iff, not_or, UInt8.not_lt,
    UInt8.not_lt] at hlead
  split at h
  · cases h
  split at h
  · cases h
  rename_i b rest₂ hrange
  have hb := isSecond_of_not_outside hrange
  split at h
  · obtain ⟨rfl, rfl⟩ := FirstChar.char.inj h
    exact .two hlead.1 ‹_› hb
  rename_i hlong
  split at h
  · cases h
  split at h
  · cases h
  rename_i c rest₃ hc
  have hc : isContinuation c = true := by simpa using hc
  split at h
  · obtain ⟨rfl, rfl⟩ := FirstChar.char.inj h
    exact .three (UInt8.not_lt.1 hlong) ‹_› hb hc
  rename_i hlonger
  split at h
  · cases h
  split at h
  · cases h
  rename_i d rest₄ hd
  obtain ⟨rfl, rfl⟩ := FirstChar.char.inj h
  exact .four (UInt8.not_lt.1 hlonger) hlead.2 hb hc (by simpa using hd)

/-- Reading a character looks at its bytes only. -/
theorem IsCharBehind.firstChar_append {lead : UInt8} {rest rest' : List UInt8} {x : Char}
    (h : IsCharBehind lead rest x rest') (more : List UInt8) :
    firstChar lead (rest ++ more) = .char x (rest' ++ more) := by
  cases h with
  | one hlead => exact firstChar_one _ hlead
  | two hlow hhigh hb => exact firstChar_two _ hlow hhigh hb
  | three hlow hhigh hb hc => exact firstChar_three _ hlow hhigh hb hc
  | four hlow hhigh hb hc hd => exact firstChar_four _ hlow hhigh hb hc hd

/-- A character has no more bytes than are read for it. -/
theorem IsCharBehind.utf8Size_le {lead : UInt8} {rest rest' : List UInt8} {x : Char}
    (h : IsCharBehind lead rest x rest') : x.utf8Size + rest'.length ≤ rest.length + 1 := by
  have hcontinuation {b : UInt8} (hb : isContinuation b = true) : b ≤ 0xBF := by
    rw [isContinuation, Bool.and_eq_true, decide_eq_true_iff, decide_eq_true_iff] at hb
    exact hb.2
  cases h with
  | one hlead =>
    have := (utf8Size_ofNat_le _).1 (UInt8.lt_iff_toNat_lt.1 hlead)
    omega
  | @two b _ hlow hhigh hb =>
    have hlead : lead.toNat < 224 := UInt8.lt_iff_toNat_lt.1 hhigh
    have hbits := extendBits_lt (by omega : lead.toNat - 0xC0 < 32) hb.high
    have := (utf8Size_ofNat_le _).2.1 hbits
    simp only [List.length_cons]
    omega
  | @three b c _ hlow hhigh hb hc =>
    have hbits := extendBits_lt (extendBits_lt (by omega : lead.toNat % 16 < 16) hb.high)
      (hcontinuation hc)
    have := (utf8Size_ofNat_le _).2.2 hbits
    simp only [List.length_cons]
    omega
  | @four b c d _ hlow hhigh hb hc hd =>
    have :=
      (Char.ofNat (extendBits (extendBits (extendBits (lead.toNat % 16) b) c) d)).utf8Size_le_four
    simp only [List.length_cons]
    omega

/-! ## Decoding in parts -/

theorem decodeLossyChars_cons (lead : UInt8) (rest : List UInt8) :
    decodeLossyChars (lead :: rest) = (firstChar lead rest).glyph.getD '\uFFFD' ::
      decodeLossyChars (firstChar lead rest).rest := by
  rw [decodeLossyChars, glyphs, List.map_cons]
  rfl

/-- Whole characters at the front of some bytes are decoded as they are. -/
theorem decodeLossyChars_append {whole : List UInt8} {chars : List Char}
    (h : decodeChars? whole = some chars) (more : List UInt8) :
    decodeLossyChars (whole ++ more) = chars ++ decodeLossyChars more ∧
      byteCount chars ≤ whole.length := by
  unfold decodeChars? at h
  fun_induction glyphs whole generalizing chars with
  | case1 =>
    cases h
    exact ⟨rfl, Nat.le_refl 0⟩
  | case2 lead rest ih =>
    simp only [List.mapM_cons, id_eq, Option.bind_eq_bind, Option.bind_eq_some_iff,
      Option.pure_def, Option.some.injEq] at h
    obtain ⟨x, hglyph, chars, hrest, rfl⟩ := h
    obtain ⟨hdecode, hcount⟩ := ih hrest
    cases hfirst : firstChar lead rest with
    | damaged rest' =>
      rw [hfirst] at hglyph
      cases hglyph
    | char c rest' =>
      rw [hfirst] at hglyph hdecode hcount
      cases hglyph
      have hbehind := isCharBehind_of_firstChar hfirst
      have hsize := hbehind.utf8Size_le
      constructor
      · rw [List.cons_append, decodeLossyChars_cons, hbehind.firstChar_append more, List.cons_append,
          ← hdecode]
        rfl
      · rw [byteCount, List.length_cons]
        exact Nat.le_trans (Nat.add_le_add_left hcount _) hsize

/-- Replaced bytes take up to three times their room. -/
theorem byteCount_decodeLossyChars_le (bytes : List UInt8) :
    byteCount (decodeLossyChars bytes) ≤ 3 * bytes.length := by
  fun_induction glyphs bytes with
  | case1 => simp [byteCount]
  | case2 lead rest ih =>
    have hlength := length_rest_firstChar_le lead rest
    rw [decodeLossyChars_cons, byteCount, List.length_cons]
    cases hfirst : firstChar lead rest with
    | damaged rest' =>
      rw [hfirst] at ih hlength
      have hsize : ('\uFFFD').utf8Size = 3 := rfl
      simp only [FirstChar.glyph, FirstChar.rest, Option.getD_none] at ih hlength ⊢
      omega
    | char x rest' =>
      rw [hfirst] at ih hlength
      have hsize := (isCharBehind_of_firstChar hfirst).utf8Size_le
      simp only [FirstChar.glyph, FirstChar.rest, Option.getD_some] at ih hlength ⊢
      omega

/-! ## Characters that are cut off -/

section CutOff

variable {lead b c : UInt8}

theorem firstChar_nil (hlow : 0xC2 ≤ lead) (hhigh : lead ≤ 0xF4) :
    firstChar lead [] = .damaged [] := by
  obtain ⟨hmany, hlead⟩ := isLead_of_le hlow hhigh
  simp only [firstChar, if_neg hmany, hlead, Bool.false_eq_true, if_false]

theorem firstChar_singleton (hlow : 0xE0 ≤ lead) (hhigh : lead ≤ 0xF4) (hb : IsSecond lead b) :
    firstChar lead [b] = .damaged [] := by
  obtain ⟨hmany, hlead⟩ := isLead_of_le (UInt8.le_trans (by decide) hlow) hhigh
  have hmore : ¬ lead < 0xE0 := UInt8.not_lt.2 hlow
  simp only [firstChar, if_neg hmany, hlead, hb.not_outside, Bool.false_eq_true, if_false,
    if_neg hmore]

theorem firstChar_pair (hlow : 0xF0 ≤ lead) (hhigh : lead ≤ 0xF4) (hb : IsSecond lead b)
    (hc : isContinuation c = true) : firstChar lead [b, c] = .damaged [] := by
  obtain ⟨hmany, hlead⟩ := isLead_of_le (UInt8.le_trans (by decide) hlow) hhigh
  have hmore : ¬ lead < 0xE0 := UInt8.not_lt.2 (UInt8.le_trans (by decide) hlow)
  have hlong : ¬ lead < 0xF0 := UInt8.not_lt.2 hlow
  simp only [firstChar, if_neg hmany, hlead, hb.not_outside, Bool.false_eq_true, if_false,
    if_neg hmore, hc, Bool.not_true, if_neg hlong]

/-- What is left of a character whose last bytes are missing is damaged as a whole. -/
theorem IsCharBehind.firstChar_take {tail rest : List UInt8} {x : Char}
    (h : IsCharBehind lead tail x rest) (hrest : rest = []) {count : Nat}
    (hcount : count < tail.length) : firstChar lead (tail.take count) = .damaged [] := by
  cases h with
  | one => simp [hrest] at hcount
  | two hlow hhigh hb =>
    subst hrest
    obtain rfl : count = 0 := by simpa using hcount
    exact firstChar_nil hlow (UInt8.le_trans (UInt8.le_of_lt hhigh) (by decide))
  | three hlow hhigh hb hc =>
    subst hrest
    have hmost : lead ≤ 0xF4 := UInt8.le_trans (UInt8.le_of_lt hhigh) (by decide)
    match count, hcount with
    | 0, _ => exact firstChar_nil (UInt8.le_trans (by decide) hlow) hmost
    | 1, _ => exact firstChar_singleton hlow hmost hb
  | four hlow hhigh hb hc hd =>
    subst hrest
    match count, hcount with
    | 0, _ => exact firstChar_nil (UInt8.le_trans (by decide) hlow) hhigh
    | 1, _ => exact firstChar_singleton (UInt8.le_trans (by decide) hlow) hhigh hb
    | 2, _ => exact firstChar_pair hlow hhigh hb hc

end CutOff

/-- A character that is cut off is replaced once. -/
theorem decodeLossyChars_take_encode {x : Char} {count : Nat} (hpos : 0 < count)
    (hcut : count < x.utf8Size) :
    decodeLossyChars ((String.utf8EncodeChar x).take count) = ['\uFFFD'] := by
  obtain ⟨lead, tail, hencode, hfirst⟩ := exists_firstChar_encode x []
  rw [List.append_nil] at hfirst
  have hsize : (lead :: tail).length = x.utf8Size := by
    rw [← hencode, String.length_utf8EncodeChar]
  obtain ⟨count, rfl⟩ := Nat.exists_eq_succ_of_ne_zero (Nat.ne_of_gt hpos)
  have hshort : count < tail.length := by
    rw [List.length_cons] at hsize
    omega
  have hdamaged := (isCharBehind_of_firstChar hfirst).firstChar_take rfl hshort
  rw [hencode, List.take_succ_cons, decodeLossyChars_cons, hdamaged, FirstChar.glyph,
    Option.getD_none, FirstChar.rest, decodeLossyChars_nil]

/-! ## Texts that are cut -/

theorem length_flatMap_encode (chars : List Char) :
    (chars.flatMap String.utf8EncodeChar).length = byteCount chars := by
  induction chars with
  | nil => rfl
  | cons x rest ih =>
    rw [List.flatMap_cons, List.length_append, String.length_utf8EncodeChar, ih, byteCount]

/-- Behind a character that lies across the limit of a text, and does not end at it, the text is
cut off. -/
structure IsCut (limit : Nat) (chars front : List Char) : Prop where
  exists_split : ∃ x back, chars = front ++ x :: back ∧ byteCount front < limit ∧
    limit < byteCount front + x.utf8Size

theorem IsCut.decodeLossyChars_take {limit : Nat} {chars front : List Char}
    (h : IsCut limit chars front) :
    decodeLossyChars ((chars.flatMap String.utf8EncodeChar).take limit) =
      front ++ ['\uFFFD'] := by
  obtain ⟨x, back, rfl, hfront, hx⟩ := h.exists_split
  have hlength : (front.flatMap String.utf8EncodeChar).length ≤ limit := by
    rw [length_flatMap_encode]
    exact Nat.le_of_lt hfront
  have hshort : limit - byteCount front ≤ (String.utf8EncodeChar x).length := by
    rw [String.length_utf8EncodeChar]
    omega
  rw [List.flatMap_append, List.flatMap_cons, List.take_append, List.take_of_length_le hlength,
    length_flatMap_encode, List.take_append_of_le_length hshort,
    (decodeLossyChars_append (decodeChars?_flatMap_encode front) _).1,
    decodeLossyChars_take_encode (by omega) (by omega)]

/-- A text that is not cut through a character is taken up to some character. -/
theorem exists_take_of_not_isCut {limit : Nat} {chars : List Char}
    (h : ∀ front, ¬ IsCut limit chars front) :
    ∃ front back, chars = front ++ back ∧ byteCount front ≤ limit ∧
      (chars.flatMap String.utf8EncodeChar).take limit = front.flatMap String.utf8EncodeChar := by
  induction chars generalizing limit with
  | nil => exact ⟨[], [], rfl, Nat.zero_le _, by simp⟩
  | cons x rest ih =>
    rcases Nat.eq_zero_or_pos limit with rfl | hpos
    · exact ⟨[], x :: rest, rfl, Nat.le_refl 0, by simp⟩
    · have hfits : x.utf8Size ≤ limit := by
        refine Nat.le_of_not_lt fun hlt => h [] ⟨x, rest, rfl, hpos, ?_⟩
        rwa [byteCount, Nat.zero_add]
      have hrest : ∀ front, ¬ IsCut (limit - x.utf8Size) rest front := by
        rintro front ⟨y, back, rfl, hfront, hy⟩
        refine h (x :: front) ⟨y, back, rfl, ?_, ?_⟩
        · rw [byteCount]
          omega
        · rw [byteCount]
          omega
      obtain ⟨front, back, rfl, hfront, htake⟩ := ih hrest
      refine ⟨x :: front, back, rfl, ?_, ?_⟩
      · rw [byteCount]
        omega
      · rw [List.flatMap_cons, List.take_append, String.length_utf8EncodeChar, htake,
          List.take_of_length_le (by rw [String.length_utf8EncodeChar]; exact hfits),
          List.flatMap_cons]

end MetricLoad.Text
