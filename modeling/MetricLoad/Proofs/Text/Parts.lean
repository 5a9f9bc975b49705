import MetricLoad.Proofs.Duration.Text
import MetricLoad.Text.Blank
import MetricLoad.Text.Digit
import MetricLoad.Text.Split
import Mathlib.Data.List.Basic
import Mathlib.Data.List.TakeWhile

/-!
# Taking texts apart

Trimming finds the part of a text between its first and its last character that is no blank.  A stem
is dropped exactly when the text begins with it, a text is split at the last of some characters
exactly when what is behind it has none, and a number is read exactly from decimal digits.
-/

namespace MetricLoad.Text

/-! ## Trimming -/

/-- Neither the first nor the last character of a text is blank. -/
structure IsTrimmed (s : List Char) : Prop where
  first : ∀ c ∈ s.head?, isBlank c = false
  last : ∀ c ∈ s.getLast?, isBlank c = false

-- Said of the two characters at the ends: a quantifier over characters is decided by trying all.
instance (s : List Char) : Decidable (IsTrimmed s) :=
  decidable_of_iff (s.head?.all (!isBlank ·) = true ∧ s.getLast?.all (!isBlank ·) = true) <| by
    simp only [Option.all_eq_true, Bool.not_eq_true']
    exact ⟨fun h => ⟨h.1, h.2⟩, fun h => ⟨h.first, h.last⟩⟩

theorem trimStart_of_head {s : List Char} (h : ∀ c ∈ s.head?, isBlank c = false) :
    trimStart s = s := by
  cases s with
  | nil => rfl
  | cons c rest => exact List.dropWhile_cons_of_neg (by simp [h c rfl])

theorem trimEnd_of_getLast {s : List Char} (h : ∀ c ∈ s.getLast?, isBlank c = false) :
    trimEnd s = s := by
  have hreverse : trimStart s.reverse = s.reverse := by
    apply trimStart_of_head
    rwa [List.head?_reverse]
  rw [trimEnd, ← trimStart, hreverse, List.reverse_reverse]

/-- A text without blanks at its ends stays as it is. -/
theorem IsTrimmed.trim_eq {s : List Char} (h : IsTrimmed s) : trim s = s := by
  rw [trim, trimStart_of_head h.first, trimEnd_of_getLast h.last]

theorem trimStart_append {front : List Char} (hfront : ∀ c ∈ front, isBlank c) (s : List Char) :
    trimStart (front ++ s) = trimStart s := by
  rw [trimStart, List.dropWhile_append_of_pos hfront, ← trimStart]

theorem trimEnd_append {back : List Char} (hback : ∀ c ∈ back, isBlank c) (s : List Char) :
    trimEnd (s ++ back) = trimEnd s := by
  rw [trimEnd, List.reverse_append, List.dropWhile_append_of_pos, ← trimEnd]
  exact fun c hc => hback c (List.mem_reverse.1 hc)

theorem trimStart_eq_nil_iff {s : List Char} : trimStart s = [] ↔ ∀ c ∈ s, isBlank c := by
  rw [trimStart, List.dropWhile_eq_nil_iff]

/-- Blanks behind a text are blanks behind what is left of it, unless nothing is left. -/
theorem trimStart_append_blanks {back : List Char} (hback : ∀ c ∈ back, isBlank c) (s : List Char) :
    trimStart (s ++ back) = trimStart s ++ back ∨
      trimStart (s ++ back) = [] ∧ trimStart s = [] := by
  rw [trimStart_eq_nil_iff, trimStart_eq_nil_iff]
  by_cases hs : ∀ c ∈ s, isBlank c
  · refine .inr ⟨fun c hc => ?_, hs⟩
    rcases List.mem_append.1 hc with hc | hc
    · exact hs c hc
    · exact hback c hc
  · refine .inl ?_
    have hne : s.dropWhile isBlank ≠ [] := fun hnil => hs (List.dropWhile_eq_nil_iff.1 hnil)
    rw [trimStart, List.dropWhile_append, if_neg (by simpa using hne), ← trimStart]

/-- Blanks around a text do not change what trimming leaves. -/
theorem trim_blanks {front back : List Char} (hfront : ∀ c ∈ front, isBlank c)
    (hback : ∀ c ∈ back, isBlank c) (s : List Char) : trim (front ++ s ++ back) = trim s := by
  rw [trim, trim, List.append_assoc, trimStart_append hfront]
  rcases trimStart_append_blanks hback s with h | ⟨h, h'⟩
  · rw [h, trimEnd_append hback]
  · rw [h, h']

/-! ## Stems and separators -/

theorem dropStem?_eq_none_iff {stem s : List Char} : dropStem? stem s = none ↔ ¬ stem <+: s := by
  rw [dropStem?, ite_eq_right_iff]
  simp

/-- A text is split at the one place behind which the character does not occur. -/
theorem splitLast?_eq_some_iff {c : Char} {s front behind : List Char} :
    splitLast? c s = some (front, behind) ↔ s = front ++ c :: behind ∧ c ∉ behind := by
  have htaken : ∀ x ∈ s.reverse.takeWhile (· != c), (x != c) = true :=
    fun x hx => List.all_eq_true.1 List.all_takeWhile x hx
  have hwhole : s.reverse.takeWhile (· != c) ++ s.reverse.dropWhile (· != c) = s.reverse :=
    List.takeWhile_append_dropWhile
  constructor
  · intro h
    unfold splitLast? at h
    cases hdrop : s.reverse.dropWhile (· != c) with
    | nil => simp [hdrop] at h
    | cons x head =>
      have hx : x = c := by
        have hnot := List.head?_dropWhile_not (· != c) s.reverse
        simpa [hdrop] using hnot
      subst hx
      simp only [hdrop, Option.some.injEq, Prod.mk.injEq] at h
      obtain ⟨rfl, rfl⟩ := h
      constructor
      · rw [hdrop] at hwhole
        have hreverse := congrArg List.reverse hwhole
        simpa using hreverse.symm
      · intro hmem
        simpa using htaken x (List.mem_reverse.1 hmem)
  · rintro ⟨rfl, hbehind⟩
    have hall : ∀ x ∈ behind.reverse, (x != c) = true := by
      intro x hx
      simp only [bne_iff_ne, ne_eq]
      rintro rfl
      exact hbehind (List.mem_reverse.1 hx)
    have hdrop : (front ++ c :: behind).reverse.dropWhile (· != c) = c :: front.reverse := by
      simp [List.dropWhile_append_of_pos hall]
    have htake : (front ++ c :: behind).reverse.takeWhile (· != c) = behind.reverse := by
      simp [List.takeWhile_append_of_pos hall]
    simp only [splitLast?, hdrop, htake, List.reverse_reverse]

theorem splitLast?_eq_none_iff {c : Char} {s : List Char} : splitLast? c s = none ↔ c ∉ s := by
  constructor
  · intro h hmem
    obtain ⟨behind, front, hreverse, hbehind⟩ :=
      List.eq_append_cons_of_mem (List.mem_reverse.2 hmem)
    have hsplit : s = front.reverse ++ c :: behind.reverse := by
      simpa using congrArg List.reverse hreverse
    rw [splitLast?_eq_some_iff.2 ⟨hsplit, fun hc => hbehind (List.mem_reverse.1 hc)⟩] at h
    cases h
  · intro hmem
    cases h : splitLast? c s with
    | none => rfl
    | some parts =>
      obtain ⟨rfl, -⟩ := splitLast?_eq_some_iff.1 h
      exact absurd (by simp) hmem

/-! ## Numbers -/

/-- A text that writes a number in decimal digits, with an optional plus sign before them. -/
def WritesUnsigned (s : List Char) (n : Nat) : Prop :=
  ∃ digits : List Char, (s = digits ∨ s = '+' :: digits) ∧ digits ≠ [] ∧
    (∀ c ∈ digits, c.isDigit) ∧ Nat.ofDigitChars 10 digits 0 = n

theorem digit?_eq_none_of_not_isDigit {c : Char} (h : c.isDigit = false) : digit? c = none := by
  refine if_neg fun hrange => ?_
  have hdigit : c.isDigit = true := by
    simpa [Char.isDigit, Char.le_def] using hrange
  rw [hdigit] at h
  cases h

/-- Digits behind a number continue it, and anything else ends the reading. -/
theorem foldl_digits_eq (digits : List Char) (acc : Nat) :
    digits.foldl (fun acc c => acc.bind fun n => (digit? c).map fun d => 10 * n + d) (some acc) =
      if digits.all Char.isDigit then some (Nat.ofDigitChars 10 digits acc) else none := by
  induction digits generalizing acc with
  | nil => rfl
  | cons c digits ih =>
    cases hdigit : c.isDigit with
    | false =>
      have hnone : digits.foldl
          (fun acc c => acc.bind fun n => (digit? c).map fun d => 10 * n + d) none = none :=
        List.foldl_fixed' (fun _ => rfl) digits
      rw [List.foldl_cons, Option.bind_some, digit?_eq_none_of_not_isDigit hdigit, Option.map_none,
        hnone, List.all_cons, hdigit, Bool.false_and, if_neg Bool.false_ne_true]
    | true =>
      rw [List.foldl_cons, Option.bind_some, Duration.digit?_of_isDigit hdigit, Option.map_some,
        ih, List.all_cons, hdigit, Bool.true_and, Nat.ofDigitChars_cons]

theorem natural?_eq_some_iff {s : List Char} {n : Nat} :
    natural? s = some n ↔
      s ≠ [] ∧ (∀ c ∈ s, c.isDigit) ∧ Nat.ofDigitChars 10 s 0 = n := by
  cases s with
  | nil => simp [natural?]
  | cons c rest =>
    have hread : natural? (c :: rest) = (c :: rest).foldl
        (fun acc c => acc.bind fun n => (digit? c).map fun d => 10 * n + d) (some 0) := rfl
    rw [hread, foldl_digits_eq, Option.ite_none_right_eq_some, List.all_eq_true, Option.some_inj]
    simp

theorem unsigned?_eq_some_iff {s : List Char} {n : Nat} :
    unsigned? s = some n ↔ WritesUnsigned s n := by
  unfold WritesUnsigned
  have hplus : ('+').isDigit = false := by decide
  cases s with
  | nil => simp [unsigned?, natural?]
  | cons c rest =>
    by_cases hc : c = '+'
    · subst hc
      rw [unsigned?, natural?_eq_some_iff]
      constructor
      · intro h
        exact ⟨rest, .inr rfl, h⟩
      · rintro ⟨digits, rfl | hdigits, hne, hall, hvalue⟩
        · -- A plus sign is no digit.
          have := hall '+' List.mem_cons_self
          simp [hplus] at this
        · cases hdigits
          exact ⟨hne, hall, hvalue⟩
    · rw [unsigned?, natural?_eq_some_iff]
      · constructor
        · intro h
          exact ⟨c :: rest, .inl rfl, h⟩
        · rintro ⟨digits, rfl | hdigits, h⟩
          · exact h
          · cases hdigits
            exact absurd rfl hc
      · simpa using hc

/-- The decimal digits of a number write it. -/
theorem writesUnsigned_toString (n : Nat) : WritesUnsigned (toString n).toList n := by
  rw [Nat.toString_eq_ofList_toDigits, String.toList_ofList]
  exact ⟨Nat.toDigits 10 n, .inl rfl, Nat.toDigits_ne_nil,
    fun c hc => Nat.isDigit_of_mem_toDigits (by decide) (by decide) hc,
    Nat.ofDigitChars_ten_toDigits⟩

/-- No colon or blank stands in the text of a number. -/
theorem WritesUnsigned.mem {s : List Char} {n : Nat} (h : WritesUnsigned s n) {c : Char}
    (hc : c ∈ s) : c = '+' ∨ c.isDigit := by
  obtain ⟨digits, rfl | rfl, -, hall, -⟩ := h
  · exact .inr (hall c hc)
  · rcases List.mem_cons.1 hc with rfl | hc
    · exact .inl rfl
    · exact .inr (hall c hc)

theorem WritesUnsigned.ne_nil {s : List Char} {n : Nat} (h : WritesUnsigned s n) : s ≠ [] := by
  obtain ⟨digits, rfl | rfl, hne, -⟩ := h
  · exact hne
  · exact List.cons_ne_nil _ _

end MetricLoad.Text
