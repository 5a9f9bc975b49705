import MetricLoad.Proofs.Query.Selection

/-!
# Derivations in lock step

Derivations of one run read one stream of random words, description after description and query
after query.  How many words a query takes is known from the choices alone: how many candidates,
replicas and label sets there are.  Two derivations that face the same choices are therefore at the
same place of the stream all the time.

Two consequences are drawn here.  Where the one list of descriptions begins with the other, the
shorter derivation ends inside the longer one, and its queries come first.  And where descriptions
differ only in how their queries are phrased and scheduled, the same series, replicas and label sets
are selected; `drawn` lists them beside the descriptions that they are drawn for.
-/

namespace MetricLoad.Query

open MetricLoad.Random

/-! ## The longer of two lists of descriptions -/

/-- The second list of descriptions has further ones behind the first, and where the first is not
empty, its last description may ask for more queries there. -/
inductive IsGrown : List QueryDescription → List QueryDescription → Prop
  | appended (descriptions more : List QueryDescription) :
      IsGrown descriptions (descriptions ++ more)
  | raised (before : List QueryDescription) (last : QueryDescription)
      (more : List QueryDescription) {count : UInt64} (hcount : last.count ≤ count) :
      IsGrown (before ++ [last]) (before ++ { last with count := count } :: more)

/-- Whatever the stream, the one list of descriptions gives queries that the queries of the other
begin with. -/
def Leads (w : Workload) (shorter longer : List QueryDescription) : Prop :=
  ∀ random later, deriveFrom w longer random = .ok later →
    ∃ earlier, deriveFrom w shorter random = .ok earlier ∧ earlier <+: later

/-- Fewer selections are the first ones of more. -/
theorem drawSelections_of_le (candidates : List SeriesTemplate) (replicas : Nat)
    (exactSeries : Bool) {fewer more : Nat} (h : fewer ≤ more) (random : ChaCha) :
    (drawSelections candidates replicas exactSeries fewer random).1 <+:
      (drawSelections candidates replicas exactSeries more random).1 := by
  induction fewer generalizing more random with
  | zero => exact List.nil_prefix
  | succ fewer ih =>
    cases more with
    | zero => exact absurd h (Nat.not_succ_le_zero fewer)
    | succ more => exact (List.prefix_cons_inj _).2 (ih (Nat.le_of_succ_le_succ h) _)

theorem leads_nil (w : Workload) (more : List QueryDescription) : Leads w [] more :=
  fun _ _ _ => ⟨[], rfl, List.nil_prefix⟩

theorem leads_raised (w : Workload) (last : QueryDescription) (more : List QueryDescription)
    {count : UInt64} (hcount : last.count ≤ count) :
    Leads w [last] ({ last with count := count } :: more) := by
  intro random later hderive
  obtain ⟨template, queries, hcheck, -, rfl⟩ := deriveFrom_cons_eq_ok_iff.1 hderive
  -- Behind the queries that are common to both, the longer derivation goes on drawing.
  refine ⟨_, deriveFrom_cons_eq_ok_iff.2 ⟨template, [], hcheck, rfl, rfl⟩, ?_⟩
  rw [List.append_nil]
  exact ((drawSelections_of_le _ _ _ (UInt64.le_iff_toNat_le.1 hcount) random).map _).trans
    (List.prefix_append _ _)

theorem Leads.cons {w : Workload} {shorter longer : List QueryDescription}
    (h : Leads w shorter longer) (d : QueryDescription) : Leads w (d :: shorter) (d :: longer) := by
  intro random later hderive
  obtain ⟨template, behind, hcheck, hbehind, rfl⟩ := deriveFrom_cons_eq_ok_iff.1 hderive
  obtain ⟨earlier, hearlier, hprefix⟩ := h _ _ hbehind
  exact ⟨_, deriveFrom_cons_eq_ok_iff.2 ⟨template, earlier, hcheck, hearlier, rfl⟩,
    (List.prefix_append_right_inj _).2 hprefix⟩

theorem Leads.append {w : Workload} {shorter longer : List QueryDescription}
    (h : Leads w shorter longer) (before : List QueryDescription) :
    Leads w (before ++ shorter) (before ++ longer) := by
  induction before with
  | nil => exact h
  | cons d before ih => exact ih.cons d

theorem IsGrown.leads {shorter longer : List QueryDescription} (h : IsGrown shorter longer)
    (w : Workload) : Leads w shorter longer := by
  cases h with
  | appended _ more => simpa using (leads_nil w more).append shorter
  | raised before last more hcount => exact (leads_raised w last more hcount).append before

theorem IsGrown.ne_nil {shorter longer : List QueryDescription} (h : IsGrown shorter longer)
    (hshorter : shorter ≠ []) : longer ≠ [] := by
  cases h with
  | appended => exact List.append_ne_nil_of_left_ne_nil hshorter _
  | raised => simp

/-- A derivation reads nothing of a workload but its series and replicas. -/
theorem deriveFrom_congr {w other : Workload} (hreplicas : other.replicas = w.replicas)
    (hseries : other.series = w.series) (descriptions : List QueryDescription) (random : ChaCha) :
    deriveFrom other descriptions random = deriveFrom w descriptions random := by
  have hcandidates (kind : SeriesKind) : candidates other kind = candidates w kind :=
    congrArg (List.filter _) hseries
  have hcheck (d : QueryDescription) : check other d = check w d := by
    simp only [check, hcandidates]
  induction descriptions generalizing random with
  | nil => rfl
  | cons d rest ih => simp only [deriveFrom, hcheck, hcandidates, hreplicas, ih]

/-- A workload that asks for further queries behind its old ones still has all of the old ones, in
their places. -/
theorem further_queries_come_last {run : String} {w grown : Workload} {later : List Query}
    (hreplicas : grown.replicas = w.replicas) (hseries : grown.series = w.series)
    (hgrown : IsGrown w.queries grown.queries) (hderive : derive run grown = .ok later) :
    ∃ earlier, derive run w = .ok earlier ∧ earlier <+: later := by
  obtain ⟨hchoice, hlater⟩ := derive_eq_ok_iff.1 hderive
  rw [deriveFrom_congr hreplicas hseries] at hlater
  obtain ⟨earlier, hearlier, hprefix⟩ := hgrown.leads w _ _ hlater
  refine ⟨earlier, derive_eq_ok_iff.2 ⟨?_, hearlier⟩, hprefix⟩
  rw [hreplicas] at hchoice
  exact or_iff_not_imp_left.2 fun hqueries => hchoice.resolve_left (hgrown.ne_nil hqueries)

/-- Two descriptions, the last of which selects one of two series. -/
def askingWorkload : Workload where
  replicas := 3
  series := [⟨"cpu", .counterOne, .empty, [⟨"core", "c", 4⟩]⟩, ⟨"heat", .gaugeRandom, .empty, []⟩,
    ⟨"requests", .counterOne, .empty, []⟩]
  queries := [⟨1, "<<.Name>>", .gaugeRandom, .ofSeconds 10, none, false, false⟩,
    ⟨2, "<<.Name>>", .counterOne, .ofSeconds 10, none, false, true⟩]
  write := {}

/-- The same with more queries of the last description, and another description behind it. -/
def grownWorkload : Workload :=
  { askingWorkload with
    queries := [⟨1, "<<.Name>>", .gaugeRandom, .ofSeconds 10, none, false, false⟩,
      ⟨5, "<<.Name>>", .counterOne, .ofSeconds 10, none, false, true⟩,
      ⟨1, "<<.Name>>", .counterOne, .ofSeconds 20, none, true, false⟩] }

/-- Templates of a single placeholder leave nothing to be refused. -/
theorem exists_derive_of_placeholders {w : Workload} (hreplicas : w.replicas ≠ 0)
    (hplain : ∀ d ∈ w.queries, d.interval.isZero = false ∧
      d.expression ∈ ["<<.Name>>", "<<.Matchers>>"] ∧ candidates w d.kind ≠ []) (run : String) :
    ∃ queries, derive run w = .ok queries := by
  have hname : QueryTemplate.parse "<<.Name>>" = .ok ⟨[.name]⟩ := by decide +kernel
  have hmatchers : QueryTemplate.parse "<<.Matchers>>" = .ok ⟨[.matchers]⟩ := by
    decide +kernel
  refine exists_derive_eq_ok hreplicas (fun d hd => ?_) run
  obtain ⟨hinterval, hexpression, hcandidates⟩ := hplain d hd
  rcases List.mem_cons.1 hexpression with hexpression | hexpression
  · exact ⟨_, check_eq_ok_iff.2 ⟨hinterval, hexpression ▸ hname, hcandidates⟩⟩
  · rw [List.mem_singleton] at hexpression
    exact ⟨_, check_eq_ok_iff.2 ⟨hinterval, hexpression ▸ hmatchers, hcandidates⟩⟩

/-- Three queries, and seven that begin with them. -/
theorem further_queries_come_last_raised :
    IsGrown askingWorkload.queries grownWorkload.queries ∧
      ∃ earlier later, derive "run" askingWorkload = .ok earlier ∧
        derive "run" grownWorkload = .ok later ∧ earlier <+: later ∧
        earlier.length = 3 ∧ later.length = 7 := by
  have hgrown : IsGrown askingWorkload.queries grownWorkload.queries :=
    .raised [_] _ [_] (by decide)
  obtain ⟨later, hlater⟩ :=
    exists_derive_of_placeholders (w := grownWorkload) (by decide) (by decide) "run"
  have hreplicas : grownWorkload.replicas = askingWorkload.replicas := rfl
  have hseries : grownWorkload.series = askingWorkload.series := rfl
  obtain ⟨earlier, hearlier, hprefix⟩ :=
    further_queries_come_last hreplicas hseries hgrown hlater
  exact ⟨hgrown, earlier, later, hearlier, hlater, hprefix, length_of_derive hearlier,
    length_of_derive hlater⟩

/-! ## The same choices in other words -/

/-- What is drawn for the queries of some descriptions, in order, each beside the description that
it is drawn for. -/
def drawnFrom (w : Workload) : List QueryDescription → ChaCha → List (QueryDescription × Selection)
  | [], _ => []
  | d :: rest, random =>
    let (selections, random) :=
      drawSelections (candidates w d.kind) w.replicas.toNat d.exactSeries d.count.toNat random
    selections.map (fun s => (d, s)) ++ drawnFrom w rest random

/-- What is drawn for the queries of a workload. -/
def drawn (run : String) (w : Workload) : List (QueryDescription × Selection) :=
  drawnFrom w w.queries (runStream run)

/-- A query for a selection that has been drawn for a description, in the words of the
description. -/
structure IsQueryFor (w : Workload) (d : QueryDescription) (s : Selection) (q : Query) : Prop where
  isDrawnFrom : s.IsDrawnFrom (candidates w d.kind) w.replicas.toNat d.exactSeries
  phrased : ∃ template, QueryTemplate.parse d.expression = .ok template ∧
    q = ofSelection d template s

/-- As many queries, for the same kind of series and with as many labels. -/
structure AsksAlike (d other : QueryDescription) : Prop where
  count_eq : other.count = d.count
  kind_eq : other.kind = d.kind
  exactSeries_eq : other.exactSeries = d.exactSeries

/-- The same choices for every query: descriptions that ask alike, as many replicas, and of each
kind that is asked for the same series in the same order.  The templates, intervals, ranges and
operators, the series of other kinds and the write options are free. -/
structure ChoosesAlike (w other : Workload) : Prop where
  replicas_eq : other.replicas = w.replicas
  series_eq : ∀ d ∈ w.queries,
    other.series.filter (·.kind = d.kind) = w.series.filter (·.kind = d.kind)
  asksAlike : List.Forall₂ AsksAlike w.queries other.queries

/-- What is derived are the queries for what is drawn, one after the other. -/
theorem isQueryFor_drawnFrom {w : Workload} (hreplicas : w.replicas ≠ 0)
    {descriptions : List QueryDescription} {random : ChaCha} {queries : List Query}
    (hderive : deriveFrom w descriptions random = .ok queries) :
    List.Forall₂ (fun drawn q => IsQueryFor w drawn.1 drawn.2 q) (drawnFrom w descriptions random)
      queries := by
  induction descriptions generalizing random queries with
  | nil =>
    cases hderive
    exact .nil
  | cons d rest ih =>
    obtain ⟨template, later, hcheck, hlater, rfl⟩ := deriveFrom_cons_eq_ok_iff.1 hderive
    obtain ⟨-, hparse, hcandidates⟩ := check_eq_ok_iff.1 hcheck
    refine List.rel_append ?_ (ih hlater)
    rw [List.forall₂_map_left_iff, List.forall₂_map_right_iff, List.forall₂_same]
    intro s hs
    exact ⟨isDrawnFrom_of_mem_drawSelections hcandidates (toNat_pos_of_ne_zero hreplicas) hs,
      template, hparse, rfl⟩

theorem isQueryFor_drawn {run : String} {w : Workload} {queries : List Query}
    (hderive : derive run w = .ok queries) :
    List.Forall₂ (fun drawn q => IsQueryFor w drawn.1 drawn.2 q) (drawn run w) queries := by
  obtain ⟨hqueries | hreplicas, hderive⟩ := derive_eq_ok_iff.1 hderive
  · rw [hqueries] at hderive
    cases hderive
    rw [drawn, hqueries]
    exact .nil
  · exact isQueryFor_drawnFrom hreplicas hderive

theorem exists_drawn_of_derive {run : String} {w : Workload} {queries : List Query}
    (hderive : derive run w = .ok queries) {i : Nat} {q : Query} (hq : queries[i]? = some q) :
    ∃ d s, (drawn run w)[i]? = some (d, s) ∧ IsQueryFor w d s q := by
  have hdrawn := isQueryFor_drawn hderive
  obtain ⟨hlater, rfl⟩ := List.getElem?_eq_some_iff.1 hq
  have hearlier : i < (drawn run w).length := by rwa [hdrawn.length_eq]
  exact ⟨_, _, List.getElem?_eq_getElem hearlier, hdrawn.get hearlier hlater⟩

/-- Descriptions that ask alike leave the stream at the same place, so also what is drawn behind
them is the same. -/
theorem drawnFrom_alike {w other : Workload} (hreplicas : other.replicas = w.replicas)
    {descriptions others : List QueryDescription}
    (hcandidates : ∀ d ∈ descriptions, candidates other d.kind = candidates w d.kind)
    (halike : List.Forall₂ AsksAlike descriptions others) (random : ChaCha) :
    List.Forall₂ (fun drawn drawn' => AsksAlike drawn.1 drawn'.1 ∧ drawn'.2 = drawn.2)
      (drawnFrom w descriptions random) (drawnFrom other others random) := by
  induction halike generalizing random with
  | nil => exact .nil
  | cons hd _ ih =>
    obtain ⟨hfirst, hrest⟩ := List.forall_mem_cons.1 hcandidates
    simp only [drawnFrom, hd.kind_eq, hd.count_eq, hd.exactSeries_eq, hreplicas, hfirst]
    refine List.rel_append ?_ (ih hrest _)
    rw [List.forall₂_map_left_iff, List.forall₂_map_right_iff, List.forall₂_same]
    exact fun s _ => ⟨hd, rfl⟩

/-- How queries are phrased and scheduled has no part in what they select: two workloads with the
same choices have as many queries, and the queries at each place are for one selection, that is for
the same series, the same replica and, where labels are asked for, the same label set. -/
theorem phrasing_leaves_selections {run : String} {w other : Workload}
    {queries otherQueries : List Query} (halike : ChoosesAlike w other)
    (hderive : derive run w = .ok queries) (hother : derive run other = .ok otherQueries) :
    otherQueries.length = queries.length ∧
      ∀ (i : Nat) (q q' : Query), queries[i]? = some q → otherQueries[i]? = some q' →
        ∃ d d' s, AsksAlike d d' ∧
          (drawn run w)[i]? = some (d, s) ∧ (drawn run other)[i]? = some (d', s) ∧
          IsQueryFor w d s q ∧ IsQueryFor other d' s q' := by
  have hdrawn : List.Forall₂ (fun drawn drawn' => AsksAlike drawn.1 drawn'.1 ∧ drawn'.2 = drawn.2)
      (drawn run w) (drawn run other) :=
    drawnFrom_alike halike.replicas_eq halike.series_eq halike.asksAlike _
  constructor
  · rw [← (isQueryFor_drawn hderive).length_eq, ← (isQueryFor_drawn hother).length_eq,
      hdrawn.length_eq]
  · intro i q q' hq hq'
    obtain ⟨d, s, hplace, hquery⟩ := exists_drawn_of_derive hderive hq
    obtain ⟨d', s', hplace', hquery'⟩ := exists_drawn_of_derive hother hq'
    obtain ⟨hlt, heq⟩ := List.getElem?_eq_some_iff.1 hplace
    obtain ⟨hlt', heq'⟩ := List.getElem?_eq_some_iff.1 hplace'
    obtain ⟨hasks, hs⟩ := hdrawn.get hlt hlt'
    rw [List.get_eq_getElem, List.get_eq_getElem, heq, heq'] at hasks hs
    subst hs
    exact ⟨d, d', _, hasks, hplace, hplace', hquery, hquery'⟩

/-- The same queries phrased and scheduled in another way, and beside them another series that is
not asked for. -/
def rewordedWorkload : Workload where
  replicas := 3
  series := [⟨"idle", .gaugeZero, .empty, []⟩, ⟨"cpu", .counterOne, .empty, [⟨"core", "c", 4⟩]⟩,
    ⟨"heat", .gaugeRandom, .empty, []⟩, ⟨"requests", .counterOne, .empty, []⟩]
  queries := [⟨1, "<<.Matchers>>", .gaugeRandom, .ofSeconds 30, some (.ofSeconds 60), true, false⟩,
    ⟨2, "<<.Matchers>>", .counterOne, .ofSeconds 5, none, true, true⟩]
  write := { batchSize := some 7 }

/-- The last of three queries. -/
theorem phrasing_leaves_selections_reworded :
    ChoosesAlike askingWorkload rewordedWorkload ∧
      ∃ queries otherQueries, derive "run" askingWorkload = .ok queries ∧
        derive "run" rewordedWorkload = .ok otherQueries ∧ otherQueries.length = queries.length ∧
        ∃ q q' d d' s, queries[2]? = some q ∧ otherQueries[2]? = some q' ∧
          (drawn "run" askingWorkload)[2]? = some (d, s) ∧
          (drawn "run" rewordedWorkload)[2]? = some (d', s) ∧
          IsQueryFor askingWorkload d s q ∧ IsQueryFor rewordedWorkload d' s q' := by
  have halike : ChoosesAlike askingWorkload rewordedWorkload :=
    ⟨rfl, by decide, .cons ⟨rfl, rfl, rfl⟩ (.cons ⟨rfl, rfl, rfl⟩ .nil)⟩
  obtain ⟨queries, hderive⟩ :=
    exists_derive_of_placeholders (w := askingWorkload) (by decide) (by decide) "run"
  obtain ⟨otherQueries, hother⟩ :=
    exists_derive_of_placeholders (w := rewordedWorkload) (by decide) (by decide) "run"
  obtain ⟨hlength, hsame⟩ := phrasing_leaves_selections halike hderive hother
  have hthree : queries.length = 3 := length_of_derive hderive
  have hlast : 2 < queries.length := by omega
  have hlast' : 2 < otherQueries.length := by omega
  have hplace := List.getElem?_eq_getElem hlast
  have hplace' := List.getElem?_eq_getElem hlast'
  obtain ⟨d, d', s, -, hplaces⟩ := hsame 2 _ _ hplace hplace'
  exact ⟨halike, queries, otherQueries, hderive, hother, hlength, _, _, d, d', s, hplace, hplace',
    hplaces⟩

end MetricLoad.Query
