import MetricLoad.Proofs.Query.Template
import Mathlib.Data.List.Infix

/-!
# The first fault of a query template

A source that is no template has a first place that is wrong.  What stands in front of it is a
template, and the `<<` there is the first one behind the placeholders of that template.  Either this
`<<` has no end, or what it encloses names no placeholder.  The error of a source is that of its
first fault, and the offset in it counts the bytes in front, however many placeholders these hold.
-/

namespace MetricLoad.QueryTemplate

open MetricLoad.Text

/-! ## Pairs with another text behind them -/

/-- Whether a pair is the first one is decided in front of its second character. -/
theorem isFirstPair_iff {c : Char} {s before after : List Char} :
    IsFirstPair c s before after ↔ s = before ++ c :: c :: after ∧ ¬ HasPair c (before ++ [c]) := by
  constructor
  · intro h
    refine ⟨h.eq_append, ?_⟩
    rintro ⟨front, back, hsplit⟩
    have hle : before.length ≤ front.length := by
      refine h.length_le front (back ++ c :: after) ?_
      calc
        s = (before ++ [c]) ++ c :: after := by
          rw [h.eq_append, List.append_assoc, List.singleton_append]
        _ = front ++ c :: c :: (back ++ c :: after) := by
          rw [hsplit, List.append_assoc, List.cons_append, List.cons_append]
    have hlength := congrArg List.length hsplit
    simp only [List.length_append, List.length_cons, List.length_nil] at hlength
    omega
  · rintro ⟨rfl, hnone⟩
    refine ⟨rfl, fun front back hsplit => ?_⟩
    by_contra hlt
    -- A pair that begins earlier would end before the second character of this one.
    have hfront : front ++ [c, c] <+: before ++ c :: c :: after := ⟨back, by simp [hsplit]⟩
    have hbefore : before ++ [c] <+: before ++ c :: c :: after := ⟨c :: after, by simp⟩
    obtain ⟨rest, hrest⟩ := List.prefix_of_prefix_length_le hfront hbefore (by simp; omega)
    exact hnone ⟨front, rest, by rw [← hrest]; simp⟩

/-- A first pair stays the first one whatever stands behind it. -/
theorem IsFirstPair.with_after {c : Char} {s before after : List Char}
    (h : IsFirstPair c s before after) (after' : List Char) :
    IsFirstPair c (before ++ c :: c :: after') before after' :=
  isFirstPair_iff.2 ⟨rfl, (isFirstPair_iff.1 h).2⟩

/-! ## Faults -/

/-- What the text behind a `<<` at some offset does wrong. -/
inductive IsFaultAt (offset : Nat) : List Char → TemplateError → Prop
  | unterminated {behind : List Char} (hclose : ¬ HasPair '>' behind) :
      IsFaultAt offset behind (.unterminated offset)
  | unknownPlaceholder {behind inner post : List Char}
      (hclose : IsFirstPair '>' behind inner post)
      (hname : String.ofList (trim inner) ≠ ".Name")
      (hmatchers : String.ofList (trim inner) ≠ ".Matchers") :
      IsFaultAt offset behind (.unknownPlaceholder (String.ofList (trim inner)))

theorem isFaultAt_of_placeholder? {offset : Nat} {behind inner post : List Char} {e : TemplateError}
    (hclose : splitPair? '>' behind = some (inner, post)) (h : placeholder? inner = .error e) :
    IsFaultAt offset behind e := by
  unfold placeholder? at h
  by_cases hname : String.ofList (trim inner) = ".Name"
  · simp [hname] at h
  · by_cases hmatchers : String.ofList (trim inner) = ".Matchers"
    · simp [hmatchers] at h
    · simp only [if_neg hname, if_neg hmatchers] at h
      cases h
      exact .unknownPlaceholder (isFirstPair_of_splitPair? hclose) hname hmatchers

/-- A text is a template up to a `<<`, which is the first one behind the placeholders there. -/
structure OpensBehind (s front behind : List Char) : Prop where
  eq_append : s = front ++ '<' :: '<' :: behind
  exists_cut : ∃ slots last, IsCutInto front slots last ∧
    IsFirstPair '<' (last ++ '<' :: '<' :: behind) last behind

theorem opensBehind_of_isFirstPair {s before behind : List Char}
    (h : IsFirstPair '<' s before behind) : OpensBehind s before behind :=
  ⟨h.eq_append, [], before, .last h.not_hasPair, h.with_after behind⟩

/-- A known placeholder in front moves what comes after it and nothing else. -/
theorem OpensBehind.cons {s rest front behind : List Char} {slot : Slot}
    (hopen : IsFirstPair '<' s slot.literal (slot.inner ++ '>' :: '>' :: rest))
    (hknown : slot.IsKnown) (h : OpensBehind rest front behind) :
    OpensBehind s (slot.text ++ front) behind := by
  obtain ⟨hrest, slots, last, hcut, hfirst⟩ := h
  refine ⟨?_, slot :: slots, last, .slot ?_ ?_ hknown hcut, hfirst⟩
  · rw [hopen.eq_append, hrest]
    simp only [Slot.text, List.append_assoc, List.cons_append, List.nil_append]
  · have heq : slot.text ++ front =
        slot.literal ++ '<' :: '<' :: (slot.inner ++ '>' :: '>' :: front) := by
      simp only [Slot.text, List.append_assoc, List.cons_append, List.nil_append]
    rw [heq]
    exact hopen.with_after _
  · exact (isFirstPair_of_not_mem hknown.not_mem rest).not_hasPair

/-! ## Offsets -/

theorem Slot.byteCount_text (slot : Slot) :
    byteCount slot.text = byteCount slot.literal + 2 + byteCount slot.inner + 2 := by
  have hangle : '<'.utf8Size = 1 ∧ '>'.utf8Size = 1 := by decide
  simp only [Slot.text, byteCount_append, byteCount, hangle]
  omega

/-! ## Where reading stops -/

/-- Reading fails at the first fault, and counts the bytes in front of it. -/
theorem exists_opensBehind_of_segmentsFrom {offset : Nat} {s : List Char} {e : TemplateError}
    (h : segmentsFrom offset s = .error e) :
    ∃ front behind, OpensBehind s front behind ∧ IsFaultAt (offset + byteCount front) behind e := by
  fun_induction segmentsFrom offset s with
  | case1 => cases h
  | case2 offset s before behind hopen hclose =>
    cases h
    exact ⟨before, behind, opensBehind_of_isFirstPair (isFirstPair_of_splitPair? hopen),
      .unterminated (not_hasPair_of_splitPair? hclose)⟩
  | case3 offset s before behind hopen inner post hclose cause hplaceholder =>
    cases h
    exact ⟨before, behind, opensBehind_of_isFirstPair (isFirstPair_of_splitPair? hopen),
      isFaultAt_of_placeholder? hclose hplaceholder⟩
  | case4 offset s before behind hopen inner post hclose segment hplaceholder cause hrest ih =>
    cases h
    obtain ⟨front, later, hopens, hfault⟩ := ih hrest
    obtain ⟨hknown, -⟩ : Slot.IsKnown ⟨before, inner⟩ ∧ segment = Slot.segment ⟨before, inner⟩ :=
      Slot.placeholder?_eq_ok_iff.1 hplaceholder
    have hfirst := isFirstPair_of_splitPair? hopen
    rw [(isFirstPair_of_splitPair? hclose).eq_append] at hfirst
    refine ⟨Slot.text ⟨before, inner⟩ ++ front, later, .cons hfirst hknown hopens, ?_⟩
    -- The offset has moved on by exactly the bytes of the placeholder and the literal before it.
    have hoffset : offset + byteCount (Slot.text ⟨before, inner⟩ ++ front) =
        offset + byteCount before + 2 + byteCount inner + 2 + byteCount front := by
      rw [byteCount_append, Slot.byteCount_text]
      dsimp only
      omega
    rwa [hoffset]
  | case5 => cases h

theorem IsFaultAt.segmentsFrom_eq {offset : Nat} {s before behind : List Char} {e : TemplateError}
    (hopen : IsFirstPair '<' s before behind)
    (h : IsFaultAt (offset + byteCount before) behind e) : segmentsFrom offset s = .error e := by
  unfold segmentsFrom
  split
  · next hsplit => cases hsplit.symm.trans hopen.splitPair?_eq_some
  · next hsplit =>
    cases hsplit.symm.trans hopen.splitPair?_eq_some
    cases h with
    | unterminated hclose =>
      split
      · rfl
      · next hsplit => cases hsplit.symm.trans (splitPair?_eq_none_of_not_hasPair hclose)
    | unknownPlaceholder hclose hname hmatchers =>
      split
      · next hsplit => cases hsplit.symm.trans hclose.splitPair?_eq_some
      · next hsplit =>
        cases hsplit.symm.trans hclose.splitPair?_eq_some
        simp only [placeholder?, if_neg hname, if_neg hmatchers]

/-- The slots of a cut are read first, whatever comes after the text that is cut. -/
theorem IsCutInto.segmentsFrom_append {front last behind : List Char} {slots : List Slot}
    {e : TemplateError} (hcut : IsCutInto front slots last) {offset : Nat}
    (h : segmentsFrom (offset + byteCount (slots.flatMap Slot.text)) (last ++ behind) = .error e) :
    segmentsFrom offset (front ++ behind) = .error e := by
  induction hcut generalizing offset with
  | last hopen => simpa [byteCount] using h
  | @slot front rest last slot slots hopen hinner hknown hcut ih =>
    have hplaceholder := Slot.placeholder?_eq_ok_iff.2 ⟨hknown, rfl⟩
    have hclose := isFirstPair_of_not_mem hknown.not_mem (rest ++ behind)
    have hopen' : IsFirstPair '<' (front ++ behind) slot.literal
        (slot.inner ++ '>' :: '>' :: (rest ++ behind)) := by
      have heq : front ++ behind =
          slot.literal ++ '<' :: '<' :: (slot.inner ++ '>' :: '>' :: (rest ++ behind)) := by
        rw [hopen.eq_append]
        simp only [List.append_assoc, List.cons_append]
      rw [heq]
      exact hopen.with_after _
    have hoffset : offset + byteCount (List.flatMap Slot.text (slot :: slots)) =
        offset + byteCount slot.literal + 2 + byteCount slot.inner + 2 +
          byteCount (slots.flatMap Slot.text) := by
      rw [List.flatMap_cons, byteCount_append, Slot.byteCount_text]
      omega
    rw [segmentsFrom_of_slot hopen'.splitPair?_eq_some hclose.splitPair?_eq_some hplaceholder,
      ih (hoffset ▸ h)]
    rfl

theorem OpensBehind.segmentsFrom_eq {offset : Nat} {s front behind : List Char} {e : TemplateError}
    (hopens : OpensBehind s front behind) (h : IsFaultAt (offset + byteCount front) behind e) :
    segmentsFrom offset s = .error e := by
  obtain ⟨rfl, slots, last, hcut, hfirst⟩ := hopens
  have hbytes : offset + byteCount front =
      offset + byteCount (slots.flatMap Slot.text) + byteCount last := by
    rw [hcut.eq_append, byteCount_append, Nat.add_assoc]
  rw [hbytes] at h
  exact hcut.segmentsFrom_append (h.segmentsFrom_eq hfirst)

theorem parse_eq_error_iff {source : String} {e : TemplateError} :
    parse source = .error e ↔ ∃ front behind, OpensBehind source.toList front behind ∧
      IsFaultAt (byteCount front) behind e := by
  have hparse : parse source = .error e ↔ segmentsFrom 0 source.toList = .error e := by
    unfold parse
    cases segmentsFrom 0 source.toList <;> simp [Except.map]
  rw [hparse]
  constructor
  · intro h
    obtain ⟨front, behind, hopens, hfault⟩ := exists_opensBehind_of_segmentsFrom h
    exact ⟨front, behind, hopens, by rwa [Nat.zero_add] at hfault⟩
  · rintro ⟨front, behind, hopens, hfault⟩
    exact hopens.segmentsFrom_eq (by rwa [Nat.zero_add])

/-! ## Errors -/

theorem eq_append_iff_toList {s front delimiter behind : String} {a b : Char}
    (h : delimiter.toList = [a, b]) :
    s = front ++ delimiter ++ behind ↔ s.toList = front.toList ++ a :: b :: behind.toList := by
  rw [← String.toList_inj, String.toList_append, String.toList_append, h, List.append_assoc,
    List.cons_append, List.singleton_append]

/-- A source goes on with `<<` behind a template, and no `<<` stands between the placeholders of
that template and this one. -/
structure StopsBehind (source front behind : String) : Prop where
  eq_append : source = front ++ "<<" ++ behind
  front_parses : ∃ t, parse front = .ok t
  opens_first : ∀ slots last, IsCutInto front.toList slots last →
    IsFirstPair '<' (last ++ '<' :: '<' :: behind.toList) last behind.toList

theorem stopsBehind_iff {source front behind : String} :
    StopsBehind source front behind ↔
      OpensBehind source.toList front.toList behind.toList := by
  constructor
  · rintro ⟨happend, ⟨t, ht⟩, hfirst⟩
    obtain ⟨slots, last, hcut, -⟩ := parse_eq_ok_iff.1 ht
    exact ⟨(eq_append_iff_toList rfl).1 happend, slots, last, hcut, hfirst slots last hcut⟩
  · rintro ⟨happend, slots, last, hcut, hfirst⟩
    refine ⟨(eq_append_iff_toList rfl).2 happend,
      ⟨_, parse_eq_ok_iff.2 ⟨slots, last, hcut, rfl⟩⟩, ?_⟩
    intro slots' last' hcut'
    obtain ⟨-, rfl⟩ := hcut.unique hcut'
    exact hfirst

/-- What is wrong behind a `<<` that stands behind `front`.  Without an end, the error is the number
of bytes in front; otherwise it is the text up to the first `>>`, without the blanks around it,
which is neither of the known names. -/
def IsFaultBehind (front behind : String) : TemplateError → Prop
  | .unterminated offset => offset = front.utf8ByteSize ∧ ¬ HasPair '>' behind.toList
  | .unknownPlaceholder name => ∃ inner post : String,
      behind = inner ++ ">>" ++ post ∧ ¬ HasPair '>' inner.toList ∧
        IsFirstPair '>' behind.toList inner.toList post.toList ∧
          name = String.ofList (trim inner.toList) ∧ name ≠ ".Name" ∧ name ≠ ".Matchers"

theorem isFaultAt_iff {front behind : String} {e : TemplateError} :
    IsFaultAt (byteCount front.toList) behind.toList e ↔ IsFaultBehind front behind e := by
  rw [byteCount_toList]
  constructor
  · intro hfault
    cases hfault with
    | unterminated hclose => exact ⟨rfl, hclose⟩
    | @unknownPlaceholder inner post hclose hname hmatchers =>
      refine ⟨String.ofList inner, String.ofList post, ?_, ?_, ?_, ?_, hname, hmatchers⟩
      · rw [eq_append_iff_toList rfl, String.toList_ofList, String.toList_ofList]
        exact hclose.eq_append
      · rw [String.toList_ofList]
        exact hclose.not_hasPair
      · rwa [String.toList_ofList, String.toList_ofList]
      · rw [String.toList_ofList]
  · intro hfault
    cases e with
    | unterminated offset =>
      obtain ⟨rfl, hclose⟩ := hfault
      exact .unterminated hclose
    | unknownPlaceholder name =>
      obtain ⟨inner, post, -, -, hclose, rfl, hname, hmatchers⟩ := hfault
      exact .unknownPlaceholder hclose hname hmatchers

/-- A source is refused for its first fault, and in front of this fault stands a template. -/
theorem parse_fails_at_first_fault (source : String) (e : TemplateError) :
    parse source = .error e ↔
      ∃ front behind : String, StopsBehind source front behind ∧ IsFaultBehind front behind e := by
  rw [parse_eq_error_iff]
  constructor
  · rintro ⟨front, behind, hopens, hfault⟩
    refine ⟨String.ofList front, String.ofList behind, stopsBehind_iff.2 ?_, isFaultAt_iff.1 ?_⟩
    · rwa [String.toList_ofList, String.toList_ofList]
    · rwa [String.toList_ofList, String.toList_ofList]
  · rintro ⟨front, behind, hstops, hfault⟩
    exact ⟨front.toList, behind.toList, stopsBehind_iff.1 hstops, isFaultAt_iff.2 hfault⟩

example : parse "rate(<<.Name>>[1m]) + <<.Name" = .error (.unterminated 22) := by
  decide +kernel

end MetricLoad.QueryTemplate
