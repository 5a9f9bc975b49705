import MetricLoad.Proofs.Query.Selection

/-!
# Why a derivation is refused

Descriptions are checked between the draws for earlier ones, but no draw has a say in whether a
derivation is refused: the error is that of the first description with a fault, and a fault is in
the description and the series alone.  How many queries are asked for is not looked at either, so
also a description of no queries is checked.

`deriveChecked` is the derivation in which a draw from an empty range and an index outside of its
list are faults of their own.  None of them ever occurs: what passes the checks leaves nothing empty
to draw from.
-/

namespace MetricLoad.Query

open MetricLoad.Random

/-! ## Faults -/

/-- What is wrong with a description: the first of three things. -/
inductive IsFault (w : Workload) (d : QueryDescription) : WorkloadError → Prop
  | zeroInterval (h : d.interval = Duration.zero) : IsFault w d (.zero .queryInterval)
  | template {cause : TemplateError} (hinterval : d.interval ≠ Duration.zero)
      (h : QueryTemplate.parse d.expression = .error cause) : IsFault w d (.template cause)
  | noSeriesOfKind {template : QueryTemplate} (hinterval : d.interval ≠ Duration.zero)
      (hparse : QueryTemplate.parse d.expression = .ok template)
      (h : ∀ s ∈ w.series, s.kind ≠ d.kind) : IsFault w d (.noSeriesOfKind d.kind)

/-- The error is that of the first description with a fault. -/
def IsFirstFault (w : Workload) (descriptions : List QueryDescription) (e : WorkloadError) : Prop :=
  ∃ before d after, descriptions = before ++ d :: after ∧
    (∀ earlier ∈ before, ∀ e', ¬IsFault w earlier e') ∧ IsFault w d e

/-- Why a workload is refused: it has queries but no replica to ask for, or a fault in one of their
descriptions. -/
inductive IsRefused (w : Workload) : WorkloadError → Prop
  | noReplicas (hqueries : w.queries ≠ []) (h : w.replicas = 0) : IsRefused w .noReplicas
  | fault {e : WorkloadError} (hreplicas : w.replicas ≠ 0) (h : IsFirstFault w w.queries e) :
      IsRefused w e

theorem candidates_eq_nil_iff {w : Workload} {kind : SeriesKind} :
    candidates w kind = [] ↔ ∀ s ∈ w.series, s.kind ≠ kind := by
  simp [candidates, List.filter_eq_nil_iff]

theorem check_eq_error_iff {w : Workload} {d : QueryDescription} {e : WorkloadError} :
    check w d = .error e ↔ IsFault w d e := by
  constructor
  · intro h
    unfold check at h
    split at h
    · next hinterval =>
      cases h
      exact .zeroInterval (d.interval.isZero_iff.1 hinterval)
    · next hinterval =>
      have hinterval : d.interval ≠ Duration.zero := mt d.interval.isZero_iff.2 hinterval
      split at h
      · next hparse =>
        cases h
        exact .template hinterval hparse
      · next hparse =>
        split at h
        · next hcandidates =>
          cases h
          exact .noSeriesOfKind hinterval hparse
            (candidates_eq_nil_iff.1 (List.isEmpty_iff.1 hcandidates))
        · cases h
  · rintro (hinterval | ⟨hinterval, hparse⟩ | ⟨hinterval, hparse, hseries⟩)
    · rw [check, if_pos (d.interval.isZero_iff.2 hinterval)]
    · rw [check, if_neg (mt d.interval.isZero_iff.1 hinterval), hparse]
    · rw [check, if_neg (mt d.interval.isZero_iff.1 hinterval), hparse]
      exact if_pos (List.isEmpty_iff.2 (candidates_eq_nil_iff.2 hseries))

theorem exists_check_eq_ok_iff {w : Workload} {d : QueryDescription} :
    (∃ template, check w d = .ok template) ↔ ∀ e, ¬IsFault w d e := by
  simp only [← check_eq_error_iff]
  cases check w d <;> simp

theorem not_isFirstFault_nil {w : Workload} {e : WorkloadError} : ¬IsFirstFault w [] e := by
  rintro ⟨before, d, after, heq, -⟩
  exact absurd heq.symm (List.append_ne_nil_of_right_ne_nil _ (List.cons_ne_nil _ _))

theorem isFirstFault_cons_iff {w : Workload} {d : QueryDescription} {rest : List QueryDescription}
    {e : WorkloadError} :
    IsFirstFault w (d :: rest) e ↔
      IsFault w d e ∨ (∀ e', ¬IsFault w d e') ∧ IsFirstFault w rest e := by
  constructor
  · rintro ⟨before, faulty, after, heq, hbefore, hfault⟩
    cases before with
    | nil =>
      cases heq
      exact .inl hfault
    | cons first before =>
      cases heq
      obtain ⟨hfirst, hbefore⟩ := List.forall_mem_cons.1 hbefore
      exact .inr ⟨hfirst, before, faulty, after, rfl, hbefore, hfault⟩
  · rintro (hfault | ⟨hfirst, before, faulty, after, rfl, hbefore, hfault⟩)
    · exact ⟨[], d, rest, rfl, List.forall_mem_nil _, hfault⟩
    · exact ⟨d :: before, faulty, after, rfl, List.forall_mem_cons.2 ⟨hfirst, hbefore⟩, hfault⟩

/-! ## Refusal -/

/-- Whatever the source of random words gives, derivation fails at the first fault. -/
theorem deriveFrom_eq_error_iff {w : Workload} {descriptions : List QueryDescription}
    (random : ChaCha) {e : WorkloadError} :
    deriveFrom w descriptions random = .error e ↔ IsFirstFault w descriptions e := by
  induction descriptions generalizing random with
  | nil => exact iff_of_false nofun not_isFirstFault_nil
  | cons d rest ih =>
    rw [isFirstFault_cons_iff, ← exists_check_eq_ok_iff, ← check_eq_error_iff]
    cases hcheck : check w d with
    | error cause => simp [deriveFrom, hcheck]
    | ok template =>
      -- The draws for this description only move the stream, and the hypothesis covers all streams.
      rw [← ih (drawSelections (candidates w d.kind) w.replicas.toNat d.exactSeries d.count.toNat
        random).2]
      simp only [deriveFrom, hcheck]
      split <;> simp_all

theorem IsFirstFault.ne_nil {w : Workload} {descriptions : List QueryDescription}
    {e : WorkloadError} (h : IsFirstFault w descriptions e) : descriptions ≠ [] := by
  rintro rfl
  exact not_isFirstFault_nil h

theorem derive_eq_error_iff {run : String} {w : Workload} {e : WorkloadError} :
    derive run w = .error e ↔ IsRefused w e := by
  unfold derive
  by_cases hqueries : w.queries = []
  · rw [if_pos (List.isEmpty_iff.2 hqueries)]
    refine iff_of_false nofun ?_
    rintro (⟨hne, -⟩ | ⟨-, hfault⟩)
    · exact hne hqueries
    · exact hfault.ne_nil hqueries
  rw [if_neg (mt List.isEmpty_iff.1 hqueries)]
  by_cases hreplicas : w.replicas = 0
  · rw [if_pos hreplicas]
    constructor
    · intro h
      cases h
      exact .noReplicas hqueries hreplicas
    · rintro (- | ⟨hne, -⟩)
      · rfl
      · exact absurd hreplicas hne
  · rw [if_neg hreplicas, deriveFrom_eq_error_iff]
    constructor
    · exact .fault hreplicas
    · rintro (⟨-, hzero⟩ | ⟨-, hfault⟩)
      · exact absurd hzero hreplicas
      · exact hfault

theorem exists_derive_eq_ok_iff {run : String} {w : Workload} :
    (∃ queries, derive run w = .ok queries) ↔ ∀ e, ¬IsRefused w e := by
  simp only [← @derive_eq_error_iff run]
  cases derive run w <;> simp

/-! ## Counts -/

/-- A description that asks for no queries. -/
def uncountedDescription (d : QueryDescription) : QueryDescription :=
  { d with count := 0 }

/-- A workload without the numbers of queries that are asked for. -/
def uncounted (w : Workload) : Workload :=
  { w with queries := w.queries.map uncountedDescription }

theorem check_uncounted (w : Workload) (d : QueryDescription) :
    check (uncounted w) (uncountedDescription d) = check w d :=
  rfl

theorem isFault_uncounted_iff {w : Workload} {d : QueryDescription} {e : WorkloadError} :
    IsFault (uncounted w) (uncountedDescription d) e ↔ IsFault w d e := by
  rw [← check_eq_error_iff, check_uncounted, check_eq_error_iff]

theorem isFirstFault_uncounted_iff {w : Workload} {descriptions : List QueryDescription}
    {e : WorkloadError} :
    IsFirstFault (uncounted w) (descriptions.map uncountedDescription) e ↔
      IsFirstFault w descriptions e := by
  induction descriptions with
  | nil => exact iff_of_false not_isFirstFault_nil not_isFirstFault_nil
  | cons d rest ih =>
    rw [List.map_cons, isFirstFault_cons_iff, isFirstFault_cons_iff, ih]
    simp only [isFault_uncounted_iff]

theorem isRefused_uncounted_iff {w : Workload} {e : WorkloadError} :
    IsRefused (uncounted w) e ↔ IsRefused w e := by
  constructor
  · rintro (⟨hqueries, hreplicas⟩ | ⟨hreplicas, hfault⟩)
    · exact .noReplicas (fun hnil => hqueries (List.map_eq_nil_iff.2 hnil)) hreplicas
    · exact .fault hreplicas (isFirstFault_uncounted_iff.1 hfault)
  · rintro (⟨hqueries, hreplicas⟩ | ⟨hreplicas, hfault⟩)
    · exact .noReplicas (fun hnil => hqueries (List.map_eq_nil_iff.1 hnil)) hreplicas
    · exact .fault hreplicas (isFirstFault_uncounted_iff.2 hfault)

/-! ## Choices -/

/-- Why a choice cannot be made. -/
inductive ChoiceFault
  | emptyRange
  | indexOutOfRange

/-- Draws an index, where a draw below zero is a fault. -/
def drawIndexChecked (count : Nat) (random : ChaCha) : Except ChoiceFault (Nat × ChaCha) :=
  if count = 0 then .error .emptyRange else .ok (drawIndex count random)

/-- Draws the index of a label set, where an index without a label set is a fault. -/
def drawLabelSetChecked (s : SeriesTemplate) (random : ChaCha) :
    Except ChoiceFault (Option Nat × ChaCha) :=
  if s.labelSetCount = 0 then .ok (none, random)
  else do
    let (index, random) ← drawIndexChecked s.labelSetCount.toNat random
    if (s.labelSetAt? index).isSome then .ok (some index, random) else .error .indexOutOfRange

/-- Draws the selection of one query, where an index without a candidate is a fault. -/
def drawSelectionChecked (candidates : List SeriesTemplate) (replicas : Nat) (exactSeries : Bool)
    (random : ChaCha) : Except ChoiceFault (Selection × ChaCha) := do
  let (position, random) ← drawIndexChecked candidates.length random
  match candidates[position]? with
  | none => .error .indexOutOfRange
  | some series =>
    let (replica, random) ← drawIndexChecked replicas random
    let (labelSet, random) ←
      if exactSeries then drawLabelSetChecked series random else .ok (none, random)
    return (⟨series, replica, labelSet⟩, random)

/-- Draws a number of selections one after the other, up to the first fault. -/
def drawSelectionsChecked (candidates : List SeriesTemplate) (replicas : Nat) (exactSeries : Bool) :
    Nat → ChaCha → Except ChoiceFault (List Selection × ChaCha)
  | 0, random => .ok ([], random)
  | count + 1, random => do
    let (selection, random) ← drawSelectionChecked candidates replicas exactSeries random
    let (rest, random) ← drawSelectionsChecked candidates replicas exactSeries count random
    return (selection :: rest, random)

/-- Derives the queries of some descriptions in order, where a choice may fail. -/
def deriveFromChecked (w : Workload) :
    List QueryDescription → ChaCha → Except ChoiceFault (Except WorkloadError (List Query))
  | [], _ => .ok (.ok [])
  | d :: rest, random =>
    match check w d with
    | .error e => .ok (.error e)
    | .ok template => do
      let (selections, random) ← drawSelectionsChecked (candidates w d.kind) w.replicas.toNat
        d.exactSeries d.count.toNat random
      match ← deriveFromChecked w rest random with
      | .error e => return .error e
      | .ok queries => return .ok (selections.map (ofSelection d template) ++ queries)

/-- Derives the queries of a workload, where a choice may fail. -/
def deriveChecked (run : String) (w : Workload) :
    Except ChoiceFault (Except WorkloadError (List Query)) :=
  if w.queries.isEmpty then .ok (.ok [])
  else if w.replicas = 0 then .ok (.error .noReplicas)
  else deriveFromChecked w w.queries (runStream run)

theorem drawIndexChecked_eq_ok {count : Nat} (hcount : 0 < count) (random : ChaCha) :
    drawIndexChecked count random = .ok (drawIndex count random) :=
  if_neg (Nat.ne_of_gt hcount)

theorem drawLabelSetChecked_eq_ok (s : SeriesTemplate) (random : ChaCha) :
    drawLabelSetChecked s random = .ok (drawLabelSet s random) := by
  unfold drawLabelSetChecked drawLabelSet
  split
  · rfl
  · next hcount =>
    have hpositive := toNat_pos_of_ne_zero hcount
    -- The count is the bound of the draw and of the access alike.
    have hindex : (s.labelSetAt? (drawIndex s.labelSetCount.toNat random).1).isSome := by
      rw [SeriesTemplate.labelSetAt?, if_pos (drawIndex_lt hpositive random)]
      rfl
    rw [drawIndexChecked_eq_ok hpositive]
    exact if_pos hindex

theorem drawSelectionChecked_eq_ok {candidates : List SeriesTemplate} {replicas : Nat}
    (hcandidates : candidates ≠ []) (hreplicas : 0 < replicas) (exactSeries : Bool)
    (random : ChaCha) :
    drawSelectionChecked candidates replicas exactSeries random =
      .ok (drawSelection candidates replicas exactSeries random) := by
  have hlength := List.length_pos_iff.2 hcandidates
  have hposition := drawIndex_lt hlength random
  unfold drawSelectionChecked drawSelection
  simp only [drawIndexChecked_eq_ok hlength, drawIndexChecked_eq_ok hreplicas, bind, Except.bind,
    List.getD_eq_getElem?_getD, List.getElem?_eq_getElem hposition, Option.getD_some]
  cases exactSeries
  · rfl
  · simp only [if_true, drawLabelSetChecked_eq_ok]
    rfl

theorem drawSelectionsChecked_eq_ok {candidates : List SeriesTemplate} {replicas : Nat}
    (hcandidates : candidates ≠ []) (hreplicas : 0 < replicas) (exactSeries : Bool) (count : Nat)
    (random : ChaCha) :
    drawSelectionsChecked candidates replicas exactSeries count random =
      .ok (drawSelections candidates replicas exactSeries count random) := by
  induction count generalizing random with
  | zero => rfl
  | succ count ih =>
    simp only [drawSelectionsChecked, drawSelections,
      drawSelectionChecked_eq_ok hcandidates hreplicas, ih, bind, Except.bind]
    rfl

/-- Behind the checks, nothing is drawn from an empty range and no index is out of range. -/
theorem deriveFromChecked_eq_ok {w : Workload} (hreplicas : w.replicas ≠ 0)
    (descriptions : List QueryDescription) (random : ChaCha) :
    deriveFromChecked w descriptions random = .ok (deriveFrom w descriptions random) := by
  have hpositive := toNat_pos_of_ne_zero hreplicas
  induction descriptions generalizing random with
  | nil => rfl
  | cons d rest ih =>
    unfold deriveFromChecked deriveFrom
    cases hcheck : check w d with
    | error e => rfl
    | ok template =>
      obtain ⟨-, -, hcandidates⟩ := check_eq_ok_iff.1 hcheck
      simp only [drawSelectionsChecked_eq_ok hcandidates hpositive, ih, bind, Except.bind]
      split <;> simp_all [pure, Except.pure]

theorem deriveChecked_eq_ok (run : String) (w : Workload) :
    deriveChecked run w = .ok (derive run w) := by
  unfold deriveChecked derive
  split
  · rfl
  · split
    · rfl
    · next hreplicas => exact deriveFromChecked_eq_ok hreplicas w.queries _

/-! ## Derivation -/

/-- A derivation is refused for want of replicas or else for the first fault of a description, and
succeeds in all other cases, without ever drawing from an empty range or leaving a list.  For what
it is refused does not depend on the run, the random words or the numbers of queries. -/
theorem derivation_fails_at_first_fault (run : String) (w : Workload) :
    deriveChecked run w = .ok (derive run w) ∧
    (w.queries = [] → derive run w = .ok []) ∧
    (∀ e, derive run w = .error e ↔ IsRefused w e) ∧
    ((∃ queries, derive run w = .ok queries) ↔ ∀ e, ¬IsRefused w e) ∧
    (∀ random e, deriveFrom w w.queries random = .error e ↔ IsFirstFault w w.queries e) ∧
    ∀ run' w', uncounted w' = uncounted w →
      ∀ e, derive run' w' = .error e ↔ derive run w = .error e := by
  refine ⟨deriveChecked_eq_ok run w, fun hqueries => ?_, fun e => derive_eq_error_iff,
    exists_derive_eq_ok_iff, fun random e => deriveFrom_eq_error_iff random,
    fun run' w' huncounted e => ?_⟩
  · exact if_pos (List.isEmpty_iff.2 hqueries)
  · rw [derive_eq_error_iff, derive_eq_error_iff, ← isRefused_uncounted_iff, huncounted,
      isRefused_uncounted_iff]

/-- A workload whose second description has a bad template, no series and no queries.  The first
description is fine, although its only series has no label sets to draw from. -/
def faultyWorkload : Workload where
  replicas := 2
  series := [⟨"cpu", .counterOne, .empty, [⟨"core", "c", 0⟩]⟩]
  queries := [⟨3, "<<.Name>>", .counterOne, .ofSeconds 10, none, false, true⟩,
    ⟨0, "up <<", .gaugeZero, .ofSeconds 10, none, false, false⟩,
    ⟨1, "up", .counterOne, .zero, none, false, false⟩]
  write := {}

theorem derivation_fails_at_first_fault_uncounted :
    derive "run" faultyWorkload = .error (.template (.unterminated 3)) ∧
      derive "other" (uncounted faultyWorkload) = .error (.template (.unterminated 3)) ∧
        deriveChecked "run" faultyWorkload = .ok (.error (.template (.unterminated 3))) := by
  obtain ⟨hchecked, -, hrefused, -, -, hindependent⟩ :=
    derivation_fails_at_first_fault "run" faultyWorkload
  have hfault : IsRefused faultyWorkload (.template (.unterminated 3)) := by
    refine .fault (by decide) ⟨faultyWorkload.queries.take 1, _, _, rfl, ?_, ?_⟩
    · intro d hd
      cases List.mem_singleton.1 hd
      exact exists_check_eq_ok_iff.1 ⟨⟨[.name]⟩, by decide +kernel⟩
    · exact check_eq_error_iff.1 (by decide +kernel)
  have hderive := (hrefused _).2 hfault
  have huncounted : uncounted (uncounted faultyWorkload) = uncounted faultyWorkload := rfl
  refine ⟨hderive, (hindependent "other" _ huncounted _).2 hderive, ?_⟩
  rw [hchecked, hderive]

end MetricLoad.Query
