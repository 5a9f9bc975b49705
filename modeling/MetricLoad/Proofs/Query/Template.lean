import MetricLoad.Query.Template
import Mathlib.Data.List.Basic
import Mathlib.Logic.Basic

/-!
# The language of query templates

A source is a template exactly if it can be cut into slots, each a literal with a known placeholder
behind it, and one last literal.  A placeholder begins at the first `<<` that is left, so there is
only one way to cut.  A template renders to its literals with the texts of its placeholders between
them; what those texts contain does not matter.
-/

namespace MetricLoad.QueryTemplate

open MetricLoad.Text

/-! ## The first pair -/

/-- A character stands twice in a row. -/
def HasPair (c : Char) (s : List Char) : Prop :=
  ∃ front back, s = front ++ c :: c :: back

/-- The texts around the first place where a character stands twice. -/
structure IsFirstPair (c : Char) (s before after : List Char) : Prop where
  eq_append : s = before ++ c :: c :: after
  length_le : ∀ front back, s = front ++ c :: c :: back → before.length ≤ front.length

theorem isFirstPair_of_splitPair? {c : Char} {s before after : List Char}
    (h : splitPair? c s = some (before, after)) : IsFirstPair c s before after := by
  refine ⟨splitPair?_eq_some h, ?_⟩
  fun_induction splitPair? c s generalizing before with
  | case1 => cases h
  | case2 => cases h
  | case3 a b rest hab =>
    cases h
    exact fun front back _ => Nat.zero_le _
  | case4 a b rest hab ih =>
    obtain ⟨⟨found, behind⟩, hfound, heq⟩ := Option.map_eq_some_iff.1 h
    cases heq
    intro front back hsplit
    cases front with
    | nil =>
      -- There is no pair at the very beginning.
      obtain ⟨rfl, hrest⟩ := List.cons.inj hsplit
      obtain ⟨rfl, -⟩ := List.cons.inj hrest
      exact absurd ⟨rfl, rfl⟩ hab
    | cons x front =>
      obtain ⟨-, hrest⟩ := List.cons.inj hsplit
      exact Nat.succ_le_succ (ih hfound front back hrest)

theorem not_hasPair_of_splitPair? {c : Char} {s : List Char} (h : splitPair? c s = none) :
    ¬ HasPair c s := by
  rintro ⟨front, back, hsplit⟩
  fun_induction splitPair? c s generalizing front with
  | case1 => exact absurd (congrArg List.length hsplit) (by simp)
  | case2 => exact absurd (congrArg List.length hsplit) (by simp; omega)
  | case3 => cases h
  | case4 a b rest hab ih =>
    cases front with
    | nil =>
      obtain ⟨rfl, hrest⟩ := List.cons.inj hsplit
      obtain ⟨rfl, -⟩ := List.cons.inj hrest
      exact hab ⟨rfl, rfl⟩
    | cons x front =>
      obtain ⟨-, hrest⟩ := List.cons.inj hsplit
      exact ih (Option.map_eq_none_iff.1 h) front hrest

namespace IsFirstPair

variable {c : Char} {s before after : List Char}

theorem unique (h : IsFirstPair c s before after) {before' after' : List Char}
    (h' : IsFirstPair c s before' after') : before = before' ∧ after = after' := by
  have hlength : before.length = before'.length :=
    Nat.le_antisymm (h.length_le _ _ h'.eq_append) (h'.length_le _ _ h.eq_append)
  obtain ⟨hbefore, hrest⟩ := List.append_inj (h.eq_append.symm.trans h'.eq_append) hlength
  exact ⟨hbefore, (List.cons.inj (List.cons.inj hrest).2).2⟩

theorem not_hasPair (h : IsFirstPair c s before after) : ¬ HasPair c before := by
  rintro ⟨front, back, hsplit⟩
  have hle : before.length ≤ front.length := by
    refine h.length_le front (back ++ c :: c :: after) ?_
    rw [h.eq_append, hsplit, List.append_assoc, List.cons_append, List.cons_append]
  have hlength : before.length = front.length + (back.length + 2) := by
    rw [hsplit, List.length_append, List.length_cons, List.length_cons]
  omega

theorem splitPair?_eq_some (h : IsFirstPair c s before after) :
    splitPair? c s = some (before, after) := by
  cases hsplit : splitPair? c s with
  | none => exact absurd ⟨before, after, h.eq_append⟩ (not_hasPair_of_splitPair? hsplit)
  | some found =>
    obtain ⟨hbefore, hafter⟩ := h.unique (isFirstPair_of_splitPair? hsplit)
    rw [hbefore, hafter]

end IsFirstPair

theorem splitPair?_eq_none_of_not_hasPair {c : Char} {s : List Char} (h : ¬ HasPair c s) :
    splitPair? c s = none := by
  cases hsplit : splitPair? c s with
  | none => rfl
  | some found => exact absurd ⟨_, _, (isFirstPair_of_splitPair? hsplit).eq_append⟩ h

/-- Behind a text without a character, a pair of it is the first one. -/
theorem isFirstPair_of_not_mem {c : Char} {before : List Char} (h : c ∉ before)
    (after : List Char) : IsFirstPair c (before ++ c :: c :: after) before after := by
  refine ⟨rfl, fun front back hsplit => ?_⟩
  by_contra hlt
  -- Otherwise the pair would begin inside the text.
  have hinside : (before ++ c :: c :: after)[front.length]? = some c := by
    rw [hsplit, List.getElem?_append_right (Nat.le_refl _), Nat.sub_self]
    rfl
  rw [List.getElem?_append_left (Nat.not_le.1 hlt)] at hinside
  exact h (List.mem_of_getElem? hinside)

/-! ## Slots -/

/-- A literal text and the text inside the placeholder behind it. -/
@[ext]
structure Slot where
  literal : List Char
  inner : List Char

namespace Slot

def text (slot : Slot) : List Char :=
  slot.literal ++ '<' :: '<' :: (slot.inner ++ ['>', '>'])

def IsKnown (slot : Slot) : Prop :=
  String.ofList (trim slot.inner) = ".Name" ∨ String.ofList (trim slot.inner) = ".Matchers"

def segment (slot : Slot) : TemplateSegment :=
  if String.ofList (trim slot.inner) = ".Name" then .name else .matchers

/-- The text that the placeholder stands for. -/
def value (slot : Slot) (name matchers : List Char) : List Char :=
  if String.ofList (trim slot.inner) = ".Name" then name else matchers

theorem segmentText_segment (slot : Slot) (name matchers : List Char) :
    segmentText name matchers slot.segment = slot.value name matchers := by
  unfold segment value
  split <;> rfl

theorem placeholder?_eq_ok_iff {slot : Slot} {segment : TemplateSegment} :
    placeholder? slot.inner = .ok segment ↔ slot.IsKnown ∧ segment = slot.segment := by
  unfold placeholder? IsKnown Slot.segment
  by_cases hname : String.ofList (trim slot.inner) = ".Name"
  · simp [hname, eq_comm]
  · by_cases hmatchers : String.ofList (trim slot.inner) = ".Matchers"
    · simp [hmatchers, eq_comm]
    · simp [hname, hmatchers]

/-- A placeholder written without blanks is the text of what it stands for. -/
theorem text_eq_append_value {slot : Slot} (h : slot.IsKnown)
    (hblank : ∀ c ∈ slot.inner, isBlank c = false) :
    slot.text = slot.literal ++ slot.value "<<.Name>>".toList "<<.Matchers>>".toList := by
  unfold IsKnown at h
  unfold text value
  rw [trim_eq_self hblank] at h ⊢
  by_cases hname : String.ofList slot.inner = ".Name"
  · have hinner : slot.inner = ".Name".toList := by rw [← hname, String.toList_ofList]
    rw [if_pos hname, hinner]
    rfl
  · have hmatchers : String.ofList slot.inner = ".Matchers" := h.resolve_left hname
    have hinner : slot.inner = ".Matchers".toList := by rw [← hmatchers, String.toList_ofList]
    rw [if_neg hname, hinner]
    rfl

/-- Nothing inside a known placeholder looks like its end. -/
theorem IsKnown.not_mem {slot : Slot} (h : slot.IsKnown) : '>' ∉ slot.inner := by
  have htrim : '>' ∉ trim slot.inner := by
    rcases h with h | h
    · rw [← String.toList_ofList (l := trim slot.inner), h]
      decide
    · rw [← String.toList_ofList (l := trim slot.inner), h]
      decide
  obtain ⟨front, back, hsplit, hfront, hback⟩ := exists_blanks_append_trim slot.inner
  have hblank : isBlank '>' = false := by decide
  intro hmem
  rw [hsplit, List.mem_append, List.mem_append] at hmem
  rcases hmem with (hmem | hmem) | hmem
  · exact Bool.false_ne_true (hblank.symm.trans (hfront _ hmem))
  · exact htrim hmem
  · exact Bool.false_ne_true (hblank.symm.trans (hback _ hmem))

end Slot

/-- A text cut into slots and the last literal.  Each placeholder begins at the first `<<` behind
the one before it. -/
inductive IsCutInto : List Char → List Slot → List Char → Prop
  | last {s : List Char} (hopen : ¬ HasPair '<' s) : IsCutInto s [] s
  | slot {s rest last : List Char} {slot : Slot} {slots : List Slot}
      (hopen : IsFirstPair '<' s slot.literal (slot.inner ++ '>' :: '>' :: rest))
      (hinner : ¬ HasPair '>' slot.inner) (hknown : slot.IsKnown)
      (hrest : IsCutInto rest slots last) : IsCutInto s (slot :: slots) last

namespace IsCutInto

variable {s last : List Char} {slots : List Slot}

theorem eq_append (h : IsCutInto s slots last) : s = slots.flatMap Slot.text ++ last := by
  induction h with
  | last hopen => rfl
  | slot hopen hinner hknown hrest ih =>
    rw [hopen.eq_append, ih, List.flatMap_cons, Slot.text]
    simp only [List.append_assoc, List.cons_append, List.nil_append]

theorem isKnown_of_mem (h : IsCutInto s slots last) {slot : Slot} (hslot : slot ∈ slots) :
    slot.IsKnown := by
  induction h with
  | last hopen => cases hslot
  | slot hopen hinner hknown hrest ih =>
    rcases List.mem_cons.1 hslot with rfl | hslot
    · exact hknown
    · exact ih hslot

theorem unique (h : IsCutInto s slots last) {slots' : List Slot} {last' : List Char}
    (h' : IsCutInto s slots' last') : slots = slots' ∧ last = last' := by
  induction h generalizing slots' with
  | last hopen =>
    cases h' with
    | last hopen' => exact ⟨rfl, rfl⟩
    | slot hopen' => exact absurd ⟨_, _, hopen'.eq_append⟩ hopen
  | @slot s rest last slot slots hopen hinner hknown hrest ih =>
    cases h' with
    | last hopen' => exact absurd ⟨_, _, hopen.eq_append⟩ hopen'
    | @slot _ rest' _ slot' slots' hopen' hinner' hknown' hrest' =>
      obtain ⟨hliteral, hbehind⟩ := hopen.unique hopen'
      -- Neither inner text has a `>`, so both placeholders end at the same `>>`.
      have hclose := isFirstPair_of_not_mem hknown.not_mem rest
      rw [hbehind] at hclose
      obtain ⟨hinner, rfl⟩ := hclose.unique (isFirstPair_of_not_mem hknown'.not_mem rest')
      obtain ⟨rfl, rfl⟩ := ih hrest'
      have hslot : slot = slot' := Slot.ext hliteral hinner
      exact ⟨by rw [hslot], rfl⟩

end IsCutInto

/-! ## Segments -/

theorem flatMap_segmentText_literal (name matchers l : List Char) :
    (literal l).flatMap (segmentText name matchers) = l := by
  cases l with
  | nil => rfl
  | cons c rest => exact List.append_nil (c :: rest)

def segmentsOf (slots : List Slot) (last : List Char) : List TemplateSegment :=
  slots.flatMap (fun slot => literal slot.literal ++ [slot.segment]) ++ literal last

theorem segmentsOf_cons (slot : Slot) (slots : List Slot) (last : List Char) :
    segmentsOf (slot :: slots) last =
      literal slot.literal ++ slot.segment :: segmentsOf slots last := by
  simp only [segmentsOf, List.flatMap_cons, List.append_assoc, List.cons_append, List.nil_append]

theorem flatMap_segmentText_segmentsOf (name matchers : List Char) (slots : List Slot)
    (last : List Char) :
    (segmentsOf slots last).flatMap (segmentText name matchers) =
      slots.flatMap (fun slot => slot.literal ++ slot.value name matchers) ++ last := by
  induction slots with
  | nil => exact flatMap_segmentText_literal name matchers last
  | cons slot slots ih =>
    rw [segmentsOf_cons, List.flatMap_append, List.flatMap_cons, List.flatMap_cons, ih,
      flatMap_segmentText_literal, Slot.segmentText_segment]
    simp only [List.append_assoc]

theorem segmentsFrom_of_last {s : List Char} (hopen : splitPair? '<' s = none) (offset : Nat) :
    segmentsFrom offset s = .ok (literal s) := by
  unfold segmentsFrom
  split
  · rfl
  · next hsplit => cases hsplit.symm.trans hopen

theorem segmentsFrom_of_slot {s before behind inner after : List Char} {segment : TemplateSegment}
    (hopen : splitPair? '<' s = some (before, behind))
    (hclose : splitPair? '>' behind = some (inner, after))
    (hplaceholder : placeholder? inner = .ok segment) (offset : Nat) :
    segmentsFrom offset s =
      (segmentsFrom (offset + byteCount before + 2 + byteCount inner + 2) after).map
        (literal before ++ segment :: ·) := by
  conv => lhs; unfold segmentsFrom
  split
  · next hsplit => cases hsplit.symm.trans hopen
  · next hsplit =>
    cases hsplit.symm.trans hopen
    split
    · next hsplit => cases hsplit.symm.trans hclose
    · next hsplit =>
      cases hsplit.symm.trans hclose
      rw [hplaceholder]
      dsimp only
      split <;> next hrest => rw [hrest]; rfl

theorem IsCutInto.segmentsFrom_eq {s last : List Char} {slots : List Slot}
    (h : IsCutInto s slots last) (offset : Nat) :
    segmentsFrom offset s = .ok (segmentsOf slots last) := by
  induction h generalizing offset with
  | last hopen => exact segmentsFrom_of_last (splitPair?_eq_none_of_not_hasPair hopen) offset
  | @slot s rest last slot slots hopen hinner hknown hrest ih =>
    have hclose := (isFirstPair_of_not_mem hknown.not_mem rest).splitPair?_eq_some
    have hplaceholder := Slot.placeholder?_eq_ok_iff.2 ⟨hknown, rfl⟩
    rw [segmentsFrom_of_slot hopen.splitPair?_eq_some hclose hplaceholder, ih, segmentsOf_cons]
    rfl

theorem exists_isCutInto_of_segmentsFrom {offset : Nat} {s : List Char}
    {segments : List TemplateSegment} (h : segmentsFrom offset s = .ok segments) :
    ∃ slots last, IsCutInto s slots last ∧ segments = segmentsOf slots last := by
  fun_induction segmentsFrom offset s generalizing segments with
  | case1 offset s hopen =>
    cases h
    exact ⟨[], s, .last (not_hasPair_of_splitPair? hopen), rfl⟩
  | case2 => cases h
  | case3 => cases h
  | case4 => cases h
  | case5 offset s before behind hopen inner after hclose segment hplaceholder rest hrest ih =>
    cases h
    obtain ⟨slots, last, hcut, rfl⟩ := ih hrest
    obtain ⟨hknown, rfl⟩ : Slot.IsKnown ⟨before, inner⟩ ∧ segment = Slot.segment ⟨before, inner⟩ :=
      Slot.placeholder?_eq_ok_iff.1 hplaceholder
    have hfirst := isFirstPair_of_splitPair? hclose
    refine ⟨⟨before, inner⟩ :: slots, last, .slot ?_ hfirst.not_hasPair hknown hcut,
      (segmentsOf_cons ⟨before, inner⟩ slots last).symm⟩
    rw [← hfirst.eq_append]
    exact isFirstPair_of_splitPair? hopen

theorem parse_eq_ok_iff {source : String} {t : QueryTemplate} :
    parse source = .ok t ↔
      ∃ slots last, IsCutInto source.toList slots last ∧ t.segments = segmentsOf slots last := by
  constructor
  · intro h
    unfold parse at h
    cases hsegments : segmentsFrom 0 source.toList with
    | error e =>
      rw [hsegments] at h
      cases h
    | ok segments =>
      rw [hsegments] at h
      cases h
      exact exists_isCutInto_of_segmentsFrom hsegments
  · rintro ⟨slots, last, hcut, hsegments⟩
    rw [parse, hcut.segmentsFrom_eq, ← hsegments]
    rfl

/-! ## Templates -/

section Render

variable {source : String} {t : QueryTemplate} {slots : List Slot} {last : List Char}

theorem toList_render (ht : parse source = .ok t) (hcut : IsCutInto source.toList slots last)
    (name matchers : String) :
    (t.render name matchers).toList =
      slots.flatMap (fun slot => slot.literal ++ slot.value name.toList matchers.toList) ++
        last := by
  obtain ⟨slots', last', hcut', hsegments⟩ := parse_eq_ok_iff.1 ht
  obtain ⟨rfl, rfl⟩ := hcut.unique hcut'
  rw [render, String.toList_ofList, hsegments, flatMap_segmentText_segmentsOf]

/-- Placeholders that stand for themselves give the source back. -/
theorem render_placeholders (ht : parse source = .ok t)
    (hcut : IsCutInto source.toList slots last)
    (hblank : ∀ slot ∈ slots, ∀ c ∈ slot.inner, isBlank c = false) :
    t.render "<<.Name>>" "<<.Matchers>>" = source := by
  apply String.toList_inj.1
  rw [toList_render ht hcut, hcut.eq_append]
  congr 1
  have htext : ∀ slot ∈ slots, slot.text =
      slot.literal ++ slot.value "<<.Name>>".toList "<<.Matchers>>".toList :=
    fun slot hslot => Slot.text_eq_append_value (hcut.isKnown_of_mem hslot) (hblank slot hslot)
  rw [List.flatMap_def, List.flatMap_def, List.map_congr_left htext]

/-- A source without `<<` is one literal. -/
theorem exists_parse_eq_ok_of_not_hasPair (h : ¬ HasPair '<' source.toList) :
    ∃ t, parse source = .ok t ∧ ∀ name matchers, t.render name matchers = source := by
  have hcut : IsCutInto source.toList [] source.toList := .last h
  have ht : parse source = .ok ⟨segmentsOf [] source.toList⟩ :=
    parse_eq_ok_iff.2 ⟨[], source.toList, hcut, rfl⟩
  refine ⟨_, ht, ?_⟩
  intro name matchers
  apply String.toList_inj.1
  rw [toList_render ht hcut]
  rfl

end Render

/-- The sources that parse are those that can be cut; there is one way to cut such a source, and its
template renders to the literals of that cut, each as it stands, with the given texts where the
placeholders were. -/
theorem parse_accepts_and_render_fills_cuts (source : String) :
    ((∃ t, parse source = .ok t) ↔ ∃ slots last, IsCutInto source.toList slots last) ∧
    (∀ slots last slots' last', IsCutInto source.toList slots last →
      IsCutInto source.toList slots' last' → slots = slots' ∧ last = last') ∧
    (∀ t slots last, parse source = .ok t → IsCutInto source.toList slots last →
      source.toList = slots.flatMap Slot.text ++ last ∧
      (∀ name matchers : String, (t.render name matchers).toList =
        slots.flatMap (fun slot => slot.literal ++ slot.value name.toList matchers.toList) ++
          last) ∧
      ((∀ slot ∈ slots, ∀ c ∈ slot.inner, isBlank c = false) →
        t.render "<<.Name>>" "<<.Matchers>>" = source)) ∧
    (¬ HasPair '<' source.toList →
      ∃ t, parse source = .ok t ∧ ∀ name matchers, t.render name matchers = source) := by
  refine ⟨⟨?_, ?_⟩, ?_, ?_, exists_parse_eq_ok_of_not_hasPair⟩
  · rintro ⟨t, ht⟩
    obtain ⟨slots, last, hcut, -⟩ := parse_eq_ok_iff.1 ht
    exact ⟨slots, last, hcut⟩
  · rintro ⟨slots, last, hcut⟩
    exact ⟨⟨segmentsOf slots last⟩, parse_eq_ok_iff.2 ⟨slots, last, hcut, rfl⟩⟩
  · exact fun slots last slots' last' hcut hcut' => hcut.unique hcut'
  · intro t slots last ht hcut
    exact ⟨hcut.eq_append, toList_render ht hcut, render_placeholders ht hcut⟩

theorem parse_accepts_and_render_fills_cuts_adjacent :
    ∃ t, parse "a<b<<.Name>><<.Matchers>>>" = .ok t ∧
      t.render "m" "<<.Name>>" = "a<bm<<.Name>>>" ∧
      t.render "<<.Name>>" "<<.Matchers>>" = "a<b<<.Name>><<.Matchers>>>" ∧
      ∃ plain, parse "up < 1" = .ok plain ∧ plain.render "m" "n" = "up < 1" := by
  have hcut : IsCutInto "a<b<<.Name>><<.Matchers>>>".toList
      [⟨"a<b".toList, ".Name".toList⟩, ⟨[], ".Matchers".toList⟩] ['>'] := by
    have hname : IsFirstPair '<' "a<b<<.Name>><<.Matchers>>>".toList "a<b".toList
        (".Name".toList ++ '>' :: '>' :: "<<.Matchers>>>".toList) :=
      isFirstPair_of_splitPair? (by decide)
    have hmatchers : IsFirstPair '<' "<<.Matchers>>>".toList []
        (".Matchers".toList ++ '>' :: '>' :: ['>']) :=
      isFirstPair_of_splitPair? (by decide)
    refine .slot hname (not_hasPair_of_splitPair? (by decide)) (.inl (by decide)) ?_
    refine .slot hmatchers (not_hasPair_of_splitPair? (by decide)) (.inr (by decide)) ?_
    exact .last (not_hasPair_of_splitPair? (by decide))
  have hblank : ∀ slot ∈ [Slot.mk "a<b".toList ".Name".toList, ⟨[], ".Matchers".toList⟩],
      ∀ c ∈ slot.inner, isBlank c = false := by
    intro slot hslot c hc
    have hnone : slot.inner.any isBlank = false := by
      rcases List.mem_pair.1 hslot with rfl | rfl <;> rfl
    exact Bool.eq_false_iff.2 (List.any_eq_false.1 hnone c hc)
  have hplain : ¬ HasPair '<' "up < 1".toList := not_hasPair_of_splitPair? rfl
  obtain ⟨haccept, -, hrender, -⟩ :=
    parse_accepts_and_render_fills_cuts "a<b<<.Name>><<.Matchers>>>"
  obtain ⟨-, -, -, hverbatim⟩ := parse_accepts_and_render_fills_cuts "up < 1"
  obtain ⟨t, ht⟩ := haccept.2 ⟨_, _, hcut⟩
  obtain ⟨-, hfill, hself⟩ := hrender t _ _ ht hcut
  obtain ⟨plain, hparse, hsame⟩ := hverbatim hplain
  refine ⟨t, ht, String.toList_inj.1 ?_, hself hblank, plain, hparse, hsame "m" "n"⟩
  rw [hfill]
  decide

end MetricLoad.QueryTemplate
