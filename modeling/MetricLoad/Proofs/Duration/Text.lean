import MetricLoad.Duration.Text
import Mathlib.Algebra.Ring.Nat
import Mathlib.Data.List.Forall2
import Mathlib.Tactic.Common

/-!
# Durations survive their text

A duration is written as counts with units, and its text is read as the terms of the same counts and
units.  Each count is taken from the remainder of the one before, so the terms add up to the
duration, and no sum of the first of them exceeds it.
-/

namespace MetricLoad.Duration

open MetricLoad.Text

/-! ## Reading one term -/

theorem digit?_of_isDigit {c : Char} (h : c.isDigit) : digit? c = some (c.toNat - '0'.toNat) := by
  have hrange : '0' ≤ c ∧ c ≤ '9' := by simpa [Char.isDigit, Char.le_def] using h
  exact if_pos hrange

theorem isBlank_of_isDigit {c : Char} (h : c.isDigit) : isBlank c = false := by
  have hrange : 48 ≤ c.toNat ∧ c.toNat ≤ 57 := by
    simpa [Char.isDigit, UInt32.le_iff_toNat_le] using h
  simp [isBlank]
  omega

/-- A letter of a unit ends a number. -/
theorem readWhole_cons_of_isUnitLetter {c : Char} (h : isUnitLetter c) (acc : Nat)
    (rest : List Char) : readWhole acc (c :: rest) = some (acc, c :: rest) := by
  have hrange : (97 ≤ c.toNat ∧ c.toNat ≤ 122) ∨ (65 ≤ c.toNat ∧ c.toNat ≤ 90) ∨ c.toNat = 181 := by
    simp only [isUnitLetter, Bool.or_eq_true, Bool.and_eq_true, decide_eq_true_eq, beq_iff_eq,
      Char.le_def, UInt32.le_iff_toNat_le] at h
    rcases h with (h | h) | rfl
    · exact .inl h
    · exact .inr (.inl h)
    · exact .inr (.inr rfl)
  have hdigit : digit? c = none := by
    refine if_neg fun hdigit => ?_
    have : c.toNat ≤ 57 := hdigit.2
    omega
  have hblank : isBlank c = false := by
    simp [isBlank]
    omega
  rw [readWhole, hdigit]
  simp [hblank, h]

theorem le_ofDigitChars (digits : List Char) (acc : Nat) :
    acc ≤ Nat.ofDigitChars 10 digits acc := by
  induction digits generalizing acc with
  | nil => exact Nat.le_refl acc
  | cons c digits ih =>
    rw [Nat.ofDigitChars_cons]
    exact Nat.le_trans (by omega) (ih _)

/-- Digits are read up to what follows them, as long as their number fits. -/
theorem readWhole_append {digits : List Char} (hdigits : ∀ c ∈ digits, c.isDigit) (acc : Nat)
    (hfits : Nat.ofDigitChars 10 digits acc < UInt64.size) (rest : List Char) :
    readWhole acc (digits ++ rest) = readWhole (Nat.ofDigitChars 10 digits acc) rest := by
  induction digits generalizing acc with
  | nil => rfl
  | cons c digits ih =>
    rw [Nat.ofDigitChars_cons] at hfits ⊢
    have hnext : fits? (10 * acc + (c.toNat - '0'.toNat)) =
        some (10 * acc + (c.toNat - '0'.toNat)) :=
      if_pos (Nat.lt_of_le_of_lt (le_ofDigitChars digits _) hfits)
    rw [List.cons_append, readWhole, digit?_of_isDigit (hdigits c List.mem_cons_self)]
    simp only [hnext, Option.bind_some]
    exact ih (fun c hc => hdigits c (List.mem_cons_of_mem _ hc)) _ hfits

/-- A text is a whole number with the name of its unit. -/
structure IsTermText (s : String) (t : Term) : Prop where
  fraction_eq : t.fraction = none
  whole_lt : t.whole < UInt64.size
  exists_name : ∃ name : String, s = toString t.whole ++ name ∧
    (∀ c ∈ name.toList, isUnitLetter c) ∧ Unit.ofName? name = some t.unit

theorem IsTermText.length_pos {s : String} {t : Term} (h : IsTermText s t) :
    0 < s.toList.length := by
  obtain ⟨name, rfl, -, -⟩ := h.exists_name
  rw [String.toList_append, List.length_append, Nat.toString_eq_repr, Nat.toList_repr]
  exact Nat.add_pos_left (List.length_pos_of_ne_nil Nat.toDigits_ne_nil) _

theorem fraction_eq_none {texts : List String} {terms : List Term}
    (h : List.Forall₂ IsTermText texts terms) : ∀ t ∈ terms, t.fraction = none := by
  induction h with
  | nil => exact fun t ht => nomatch ht
  | cons hfirst _ ih => exact List.forall_mem_cons.2 ⟨hfirst.fraction_eq, ih⟩

/-- What may stand behind a term: nothing, or something that is no letter of a unit. -/
def EndsName (rest : List Char) : Prop :=
  ∀ c ∈ rest.head?, isUnitLetter c = false

/-- What follows the digits of a term is its unit. -/
theorem readTerm_append {digits : List Char} (hdigits : ∀ c ∈ digits, c.isDigit) {first : Nat}
    (hfits : Nat.ofDigitChars 10 digits first < UInt64.size) {name : String} {unit : Unit}
    (hletters : ∀ c ∈ name.toList, isUnitLetter c) (hname : Unit.ofName? name = some unit)
    {rest : List Char} (hrest : EndsName rest) :
    readTerm first (digits ++ (name.toList ++ rest)) =
      some (⟨Nat.ofDigitChars 10 digits first, none, unit⟩, rest) := by
  obtain ⟨c, letters, hcons⟩ : ∃ c letters, name.toList = c :: letters := by
    refine List.exists_cons_of_ne_nil fun hnil => ?_
    rw [String.toList_eq_nil_iff] at hnil
    subst hnil
    cases hname
  have hc : isUnitLetter c := hletters c (hcons ▸ List.mem_cons_self)
  have hwhole : readWhole first (digits ++ (name.toList ++ rest)) =
      some (Nat.ofDigitChars 10 digits first, name.toList ++ rest) := by
    rw [readWhole_append hdigits first hfits, hcons, List.cons_append,
      readWhole_cons_of_isUnitLetter hc]
  have hpoint : readOptionalFraction (name.toList ++ rest) = some (none, name.toList ++ rest) := by
    rw [hcons, List.cons_append]
    refine readOptionalFraction.eq_2 _ fun later heq => ?_
    rw [(List.cons.inj heq).1] at hc
    exact absurd hc (by decide)
  have htake : rest.takeWhile isUnitLetter = [] ∧ rest.dropWhile isUnitLetter = rest := by
    cases rest with
    | nil => exact ⟨rfl, rfl⟩
    | cons e rest => simp [hrest e rfl]
  simp only [readTerm, hwhole, hpoint, Option.bind_some,
    List.takeWhile_append_of_pos hletters, List.dropWhile_append_of_pos hletters, htake,
    List.append_nil, String.ofList_toList, hname, Option.map_some]

/-- A term is read from its text, and what follows is read on. -/
theorem IsTermText.termsWithin {s : String} {t : Term} (h : IsTermText s t) {rest : List Char}
    (hrest : EndsName rest) (fuel : Nat) :
    termsWithin (fuel + 1) (s.toList ++ rest) =
      (Duration.termsWithin fuel rest).map (t :: ·) := by
  obtain ⟨name, rfl, hletters, hname⟩ := h.exists_name
  have hdigits : ∀ c ∈ Nat.toDigits 10 t.whole, c.isDigit :=
    fun c hc => Nat.isDigit_of_mem_toDigits (by decide) (by decide) hc
  have hvalue : Nat.ofDigitChars 10 (Nat.toDigits 10 t.whole) 0 = t.whole :=
    Nat.ofDigitChars_ten_toDigits
  rw [String.toList_append, Nat.toString_eq_repr, Nat.toList_repr, List.append_assoc]
  cases hcons : Nat.toDigits 10 t.whole with
  | nil => exact absurd hcons Nat.toDigits_ne_nil
  | cons c digits =>
    rw [hcons] at hdigits hvalue
    have hc := hdigits c List.mem_cons_self
    have hblank : isBlank c = false := isBlank_of_isDigit hc
    rw [Nat.ofDigitChars_cons, Nat.mul_zero, Nat.zero_add] at hvalue
    have hread := readTerm_append (fun e he => hdigits e (List.mem_cons_of_mem _ he))
      (hvalue ▸ h.whole_lt) hletters hname hrest
    rw [hvalue] at hread
    simp only [Duration.termsWithin, trimStart, List.cons_append, List.dropWhile_cons, hblank,
      Bool.false_eq_true, if_false, digit?_of_isDigit hc, Option.bind_some, hread]
    rw [show (⟨t.whole, none, t.unit⟩ : Term) = t from by rw [← h.fraction_eq]]

/-- A blank before a term says nothing. -/
theorem termsWithin_blank (fuel : Nat) (rest : List Char) :
    termsWithin fuel (' ' :: rest) = termsWithin fuel rest := by
  cases fuel <;> rfl

/-- Texts of terms with a blank before each are read as the terms. -/
theorem termsWithin_flatMap {texts : List String} {terms : List Term}
    (h : List.Forall₂ IsTermText texts terms) {fuel : Nat} (hfuel : texts.length ≤ fuel) :
    termsWithin fuel (texts.flatMap (' ' :: ·.toList)) = some terms := by
  induction h generalizing fuel with
  | nil => cases fuel <;> rfl
  | @cons s t texts terms hs htexts ih =>
    obtain ⟨fuel, rfl⟩ := Nat.exists_eq_add_one_of_ne_zero (Nat.ne_of_gt (Nat.lt_of_lt_of_le
      (Nat.succ_pos _) hfuel))
    have hends : EndsName (texts.flatMap (' ' :: ·.toList)) := by
      cases texts with
      | nil => exact fun c hc => nomatch hc
      | cons _ _ => exact fun c hc => by cases hc; decide
    rw [List.flatMap_cons, List.cons_append, termsWithin_blank, hs.termsWithin hends,
      ih (Nat.le_of_succ_le_succ hfuel), Option.map_some]

theorem toList_intercalate_cons (s : String) (texts : List String) :
    (" ".intercalate (s :: texts)).toList = s.toList ++ texts.flatMap (' ' :: ·.toList) := by
  induction texts generalizing s with
  | nil => simp
  | cons next texts ih =>
    rw [String.intercalate_cons_cons, String.toList_append, String.toList_append, ih,
      List.append_assoc]
    rfl

theorem length_le_length_flatMap (texts : List String) :
    texts.length ≤ (texts.flatMap (' ' :: ·.toList)).length := by
  induction texts with
  | nil => exact Nat.le_refl 0
  | cons s texts ih =>
    rw [List.flatMap_cons, List.length_append, List.length_cons, List.length_cons]
    omega

/-- The text of some terms is read as the terms. -/
theorem terms?_intercalate {texts : List String} {terms : List Term}
    (h : List.Forall₂ IsTermText texts terms) (hne : terms ≠ []) :
    terms? (" ".intercalate texts).toList = some terms := by
  cases h with
  | nil => exact absurd rfl hne
  | @cons s t texts terms hs htexts =>
    have hlength : (s :: texts).length ≤ (" ".intercalate (s :: texts)).toList.length := by
      rw [toList_intercalate_cons, List.length_append, List.length_cons, Nat.add_comm]
      exact Nat.add_le_add hs.length_pos (length_le_length_flatMap texts)
    have hread := termsWithin_flatMap (.cons hs htexts) hlength
    rw [List.flatMap_cons, List.cons_append, termsWithin_blank, ← toList_intercalate_cons] at hread
    rw [terms?, hread]
    rfl

/-! ## Adding terms -/

/-- The sum of some terms without fractions, by the length of the units on a scale. -/
def total (scale : Unit → Nat) (terms : List Term) : Nat :=
  (terms.map fun t => t.whole * scale t.unit).sum

theorem total_cons (scale : Unit → Nat) (t : Term) (terms : List Term) :
    total scale (t :: terms) = t.whole * scale t.unit + total scale terms := by
  simp [total]

theorem total_append (scale : Unit → Nat) (terms later : List Term) :
    total scale (terms ++ later) = total scale terms + total scale later := by
  simp [total]

theorem fits?_of_lt {n : Nat} (h : n < UInt64.size) : fits? n = some n :=
  if_pos h

theorem val_subSecond {n : Nat} (h : n < nanosPerSecond) : (subSecond n).val = n :=
  Nat.mod_eq_of_lt h

theorem subSecond_val (n : Fin 1000000000) : subSecond n.val = n :=
  Fin.ext (val_subSecond n.isLt)

/-- A term without a fraction is added, as long as the seconds fit and the nanoseconds stay below
the second. -/
theorem addTerm?_of_lt {t : Term} (hterm : t.fraction = none) {d : Duration}
    (hseconds : d.seconds.toNat + t.whole * t.unit.wholeSeconds < UInt64.size)
    (hnanos : d.nanos.val + t.whole * t.unit.partNanos < nanosPerSecond) :
    addTerm? d t = some ⟨(d.seconds.toNat + t.whole * t.unit.wholeSeconds).toUInt64,
      subSecond (d.nanos.val + t.whole * t.unit.partNanos)⟩ := by
  have hsize : nanosPerSecond < UInt64.size := by decide
  have hcarry : (d.nanos.val + t.whole * t.unit.partNanos) / nanosPerSecond = 0 :=
    Nat.div_eq_of_lt hnanos
  rw [addTerm?, fits?_of_lt (by omega), Option.bind_some, fits?_of_lt (by omega), Option.bind_some,
    addParts?, fits?_of_lt (by omega), Option.bind_some, hcarry, Nat.add_zero,
    fits?_of_lt hseconds, hterm]
  rfl

/-- Terms without fractions are added up, as long as the seconds fit and the nanoseconds stay below
the second. -/
theorem foldl_addTerm?_of_lt {terms : List Term} (hterms : ∀ t ∈ terms, t.fraction = none)
    (d : Duration) (hseconds : d.seconds.toNat + total Unit.wholeSeconds terms < UInt64.size)
    (hnanos : d.nanos.val + total Unit.partNanos terms < nanosPerSecond) :
    terms.foldl (fun acc t => acc.bind fun d => addTerm? d t) (some d) =
      some ⟨(d.seconds.toNat + total Unit.wholeSeconds terms).toUInt64,
        subSecond (d.nanos.val + total Unit.partNanos terms)⟩ := by
  induction terms generalizing d with
  | nil =>
    simp [total, subSecond_val]
  | cons t terms ih =>
    rw [total_cons] at hseconds hnanos
    have hsum : (d.seconds.toNat + t.whole * t.unit.wholeSeconds).toUInt64.toNat =
        d.seconds.toNat + t.whole * t.unit.wholeSeconds :=
      UInt64.toNat_ofNat_of_lt' (by omega)
    have hpart := val_subSecond (n := d.nanos.val + t.whole * t.unit.partNanos) (by omega)
    rw [List.foldl_cons, Option.bind_some,
      addTerm?_of_lt (hterms t List.mem_cons_self) (by omega) (by omega),
      ih (fun u hu => hterms u (List.mem_cons_of_mem _ hu)) _ (by rw [hsum]; omega)
        (by rw [hpart]; omega), hsum, hpart, total_cons, total_cons, Nat.add_assoc, Nat.add_assoc]

/-! ## The terms of a duration -/

/-- The term of a count; nothing for zero. -/
def countTerm (count : Nat) (unit : Unit) : List Term :=
  if count == 0 then [] else [⟨count, none, unit⟩]

theorem total_countTerm (scale : Unit → Nat) (count : Nat) (unit : Unit) :
    total scale (countTerm count unit) = count * scale unit := by
  unfold countTerm
  split
  · rename_i h
    simp [total, eq_of_beq h]
  · simp [total]

theorem part_isTermText {count : Nat} (hcount : count < UInt64.size) {name : String} {unit : Unit}
    (hletters : name.toList.all isUnitLetter = true) (hname : Unit.ofName? name = some unit) :
    List.Forall₂ IsTermText (part count name) (countTerm count unit) := by
  unfold part countTerm
  split
  · exact .nil
  · exact .cons ⟨rfl, hcount, name, rfl, List.all_eq_true.1 hletters, hname⟩ .nil

theorem pluralPart_isTermText {count : Nat} (hcount : count < UInt64.size) {name : String}
    {unit : Unit} (hletters : name.toList.all isUnitLetter = true)
    (hname : Unit.ofName? name = some unit) (hplural : Unit.ofName? (name ++ "s") = some unit) :
    List.Forall₂ IsTermText (pluralPart count name) (countTerm count unit) := by
  unfold pluralPart
  split
  · refine part_isTermText hcount ?_ hplural
    rw [String.toList_append, List.all_append, hletters]
    rfl
  · exact part_isTermText hcount hletters hname

/-- The terms that the text of a duration stands for. -/
def terms (d : Duration) : List Term :=
  let seconds := d.seconds.toNat
  let inYear := seconds % 31557600
  let inMonth := inYear % 2630016
  let inDay := inMonth % 86400
  let nanos := d.nanos.val
  countTerm (seconds / 31557600) .year ++ countTerm (inYear / 2630016) .month ++
    countTerm (inMonth / 86400) .day ++ countTerm (inDay / 3600) .hour ++
    countTerm (inDay % 3600 / 60) .minute ++ countTerm (inDay % 60) .second ++
    countTerm (nanos / 1000000) .millisecond ++ countTerm (nanos / 1000 % 1000) .microsecond ++
    countTerm (nanos % 1000) .nanosecond

theorem parts_isTermText (d : Duration) : List.Forall₂ IsTermText d.parts d.terms := by
  have hseconds := d.seconds.toNat_lt_size
  have hnanos := d.nanos.isLt
  have hsize : 1000000000 < UInt64.size := by decide
  unfold parts terms
  refine List.rel_append (List.rel_append (List.rel_append (List.rel_append (List.rel_append
    (List.rel_append (List.rel_append (List.rel_append ?year ?month) ?day) ?hour) ?minute)
    ?second) ?millisecond) ?microsecond) ?nanosecond
  case year => exact pluralPart_isTermText (by omega) rfl rfl rfl
  case month => exact pluralPart_isTermText (by omega) rfl rfl rfl
  case day => exact pluralPart_isTermText (by omega) rfl rfl rfl
  all_goals exact part_isTermText (by omega) rfl rfl

/-- The seconds of the terms add up to the seconds of the duration. -/
theorem total_wholeSeconds_terms (d : Duration) :
    total Unit.wholeSeconds d.terms = d.seconds.toNat := by
  simp only [terms, total_append, total_countTerm, Unit.wholeSeconds]
  omega

/-- The nanoseconds of the terms add up to the nanoseconds of the duration. -/
theorem total_partNanos_terms (d : Duration) : total Unit.partNanos d.terms = d.nanos.val := by
  simp only [terms, total_append, total_countTerm, Unit.partNanos]
  omega

theorem sum?_terms (d : Duration) : sum? d.terms = some d := by
  have hseconds : zero.seconds.toNat + total Unit.wholeSeconds d.terms = d.seconds.toNat := by
    rw [total_wholeSeconds_terms]
    exact Nat.zero_add _
  have hnanos : zero.nanos.val + total Unit.partNanos d.terms = d.nanos.val := by
    rw [total_partNanos_terms]
    exact Nat.zero_add _
  have hadded := foldl_addTerm?_of_lt (fraction_eq_none d.parts_isTermText) zero
    (hseconds ▸ d.seconds.toNat_lt_size) (hnanos ▸ d.nanos.isLt)
  rw [hseconds, hnanos, Nat.toUInt64_eq, UInt64.ofNat_toNat, subSecond_val] at hadded
  exact hadded

/-- A duration is read back from its text. -/
theorem ofText?_text (d : Duration) : ofText? d.text = some d := by
  by_cases hzero : d.isZero
  case pos =>
    rw [text, if_pos hzero, (isZero_iff d).1 hzero]
    rfl
  case neg =>
    have hne : d.terms ≠ [] := fun hnil => by
      have hsum := d.sum?_terms
      rw [hnil] at hsum
      exact hzero ((isZero_iff d).2 (Option.some.inj hsum).symm)
    have hterms := terms?_intercalate d.parts_isTermText hne
    -- The text of a number alone is no term, so this text is not the one that goes without a unit.
    have hunit : " ".intercalate d.parts ≠ "0" := fun heq => by
      rw [heq] at hterms
      cases hterms
    rw [text, if_neg hzero, ofText?, if_neg (by simpa using hunit), hterms, Option.bind_some,
      sum?_terms]

end MetricLoad.Duration
