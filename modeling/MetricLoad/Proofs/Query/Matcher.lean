import MetricLoad.Proofs.Query.Selection

/-!
# Matchers are read back

The text of a list of matchers says which matchers they are.  A value stands between quotes and
cannot end them: whatever it holds, a reader of literals that is put in front of it stops exactly
at its end.  `readList?` reads matchers with commas between them, as far as they go, and gives back
the list that was written when the names are identifiers.  This holds for the matchers of all
queries that are derived, whatever the values of the labels are.
-/

namespace MetricLoad

namespace Matcher

/-! ## Literals -/

/-- A character outside the quotes' syntax is read as it stands. -/
theorem scanInside?_cons {c : Char} (hbackslash : c ≠ '\\') (hquote : c ≠ '"')
    (hnewline : c ≠ '\n') (rest : List Char) :
    scanInside? (c :: rest) =
      (scanInside? rest).map fun (value, rest) => (c :: value, rest) := by
  rw [scanInside?] <;> simp_all

/-- The form of a character is read as the character. -/
theorem scanInside?_escapeChar (c : Char) (rest : List Char) :
    scanInside? (escapeChar c ++ rest) =
      (scanInside? rest).map fun (value, rest) => (c :: value, rest) := by
  unfold escapeChar
  by_cases hbackslash : c = '\\'
  · rw [if_pos hbackslash, hbackslash]
    rfl
  by_cases hquote : c = '"'
  · rw [if_neg hbackslash, if_pos hquote, hquote]
    rfl
  by_cases hnewline : c = '\n'
  · rw [if_neg hbackslash, if_neg hquote, if_pos hnewline, hnewline]
    rfl
  · rw [if_neg hbackslash, if_neg hquote, if_neg hnewline]
    exact scanInside?_cons hbackslash hquote hnewline rest

theorem scanLiteral?_quote (value rest : List Char) :
    scanLiteral? (quote value ++ rest) = some (value, rest) := by
  have hinside : scanInside? (value.flatMap escapeChar ++ '"' :: rest) = some (value, rest) := by
    induction value with
    | nil => rfl
    | cons c tail ih =>
      rw [List.flatMap_cons, List.append_assoc, scanInside?_escapeChar, ih]
      rfl
  rw [quote, List.append_assoc]
  exact hinside

theorem length_scanInside?_le {s value rest : List Char}
    (h : scanInside? s = some (value, rest)) : rest.length ≤ s.length := by
  fun_induction scanInside? s generalizing value with
  | case1 => cases h
  | case2 tail =>
    cases h
    exact Nat.le_succ _
  | case3 => cases h
  | case4 c tail ih =>
    obtain ⟨⟨inner, behind⟩, hread, heq⟩ := Option.map_eq_some_iff.1 h
    cases heq
    exact Nat.le_trans (ih hread) (by simp only [List.length_cons]; omega)
  | case5 => cases h
  | case6 c tail _ _ _ _ ih =>
    obtain ⟨⟨inner, behind⟩, hread, heq⟩ := Option.map_eq_some_iff.1 h
    cases heq
    exact Nat.le_trans (ih hread) (Nat.le_succ _)

theorem length_scanLiteral?_lt {s value rest : List Char}
    (h : scanLiteral? s = some (value, rest)) : rest.length < s.length := by
  unfold scanLiteral? at h
  split at h
  · exact Nat.lt_succ_of_le (length_scanInside?_le h)
  · cases h

/-! ## Names -/

def isNameStart (c : Char) : Bool :=
  c.isAlpha || c == '_'

def isNameRest (c : Char) : Bool :=
  c.isAlphanum || c == '_'

/-- A letter or an underscore, and then letters, digits and underscores. -/
def isIdentifier (name : String) : Bool :=
  match name.toList with
  | [] => false
  | first :: rest => isNameStart first && rest.all isNameRest

/-! ## Reading -/

/-- Reads a name, as far as it goes. -/
def readName? : List Char → Option (String × List Char)
  | [] => none
  | first :: rest =>
    if isNameStart first then
      some (String.ofList (first :: rest.takeWhile isNameRest), rest.dropWhile isNameRest)
    else none

/-- Reads an operator; `=` with a tilde behind it is the longer one. -/
def readOperator? : List Char → Option (MatchOperator × List Char)
  | '=' :: '~' :: rest => some (.regex, rest)
  | '=' :: rest => some (.equal, rest)
  | _ => none

/-- Reads a matcher: its name, its operator and its value. -/
def read? (s : List Char) : Option (Matcher × List Char) := do
  let (name, s) ← readName? s
  let (operator, s) ← readOperator? s
  let (value, s) ← scanLiteral? s
  some (⟨name, operator, String.ofList value⟩, s)

theorem length_read?_lt {s rest : List Char} {m : Matcher} (h : read? s = some (m, rest)) :
    rest.length < s.length := by
  simp only [read?, Option.bind_eq_bind, Option.bind_eq_some_iff, Prod.exists, Option.some.injEq,
    Prod.mk.injEq] at h
  obtain ⟨name, s₁, hname, operator, s₂, hoperator, value, s₃, hvalue, -, rfl⟩ := h
  have hname_le : s₁.length ≤ s.length := by
    unfold readName? at hname
    split at hname
    · cases hname
    · split at hname
      · cases hname
        exact Nat.le_succ_of_le (List.dropWhile_suffix _).length_le
      · cases hname
  have hoperator_le : s₂.length ≤ s₁.length := by
    unfold readOperator? at hoperator
    split at hoperator
    · cases hoperator
      simp only [List.length_cons]
      omega
    · cases hoperator
      exact Nat.le_succ _
    · cases hoperator
  have hvalue_lt := length_scanLiteral?_lt hvalue
  omega

/-- Reads matchers with a comma between them, as far as they go. -/
def readList? (s : List Char) : Option (List Matcher × List Char) :=
  match _h : read? s with
  | none => none
  | some (m, ',' :: rest) => (readList? rest).map fun (ms, rest) => (m :: ms, rest)
  | some (m, rest) => some ([m], rest)
termination_by s.length
decreasing_by
  have hlt := length_read?_lt _h
  rw [List.length_cons] at hlt
  omega

theorem readList?_of_last {s rest : List Char} {m : Matcher} (h : read? s = some (m, rest))
    (hrest : rest.head? ≠ some ',') : readList? s = some ([m], rest) := by
  unfold readList?
  split
  · next hread => cases hread.symm.trans h
  · next hread =>
    cases hread.symm.trans h
    exact absurd rfl hrest
  · next hread =>
    cases hread.symm.trans h
    rfl

theorem readList?_of_comma {s rest : List Char} {m : Matcher}
    (h : read? s = some (m, ',' :: rest)) :
    readList? s = (readList? rest).map fun (ms, rest) => (m :: ms, rest) := by
  conv => lhs; unfold readList?
  split
  · next hread => cases hread.symm.trans h
  · next hread =>
    cases hread.symm.trans h
    rfl
  · next hother hread =>
    cases hread.symm.trans h
    exact (hother _ rfl).elim

/-! ## Reading back -/

/-- A name ends where the operator behind it begins. -/
theorem readName?_append {name : String} (h : isIdentifier name) (rest : List Char) :
    readName? (name.toList ++ '=' :: rest) = some (name, '=' :: rest) := by
  unfold isIdentifier at h
  split at h
  · cases h
  · next first tail hname =>
    obtain ⟨hfirst, htail⟩ := Bool.and_eq_true_iff.1 h
    have hinside : ∀ c ∈ tail, isNameRest c = true := List.all_eq_true.1 htail
    have htake : (tail ++ '=' :: rest).takeWhile isNameRest = tail := by
      rw [List.takeWhile_append_of_pos hinside]
      exact List.append_nil tail
    have hdrop : (tail ++ '=' :: rest).dropWhile isNameRest = '=' :: rest := by
      rw [List.dropWhile_append_of_pos hinside]
      rfl
    rw [hname, List.cons_append, readName?, if_pos hfirst, htake, hdrop, ← hname,
      String.ofList_toList]

theorem readOperator?_append (operator : MatchOperator) (rest : List Char) :
    readOperator? (operator.text.toList ++ '"' :: rest) = some (operator, '"' :: rest) := by
  cases operator <;> rfl

theorem read?_text {m : Matcher} (h : isIdentifier m.name) (rest : List Char) :
    read? (m.text.toList ++ rest) = some (m, rest) := by
  have htext : m.text.toList ++ rest =
      m.name.toList ++ (m.operator.text.toList ++ (quote m.value.toList ++ rest)) := by
    rw [text, String.toList_append, String.toList_append, String.toList_ofList, List.append_assoc,
      List.append_assoc]
  -- Both operators begin with the character that ends the name.
  have hname : readName? (m.text.toList ++ rest) =
      some (m.name, m.operator.text.toList ++ (quote m.value.toList ++ rest)) := by
    rw [htext]
    cases m.operator <;> exact readName?_append h _
  have hoperator : readOperator? (m.operator.text.toList ++ (quote m.value.toList ++ rest)) =
      some (m.operator, quote m.value.toList ++ rest) :=
    readOperator?_append m.operator _
  simp only [read?, hname, hoperator, scanLiteral?_quote, Option.bind_eq_bind, Option.bind_some,
    String.ofList_toList]

/-- Matchers with names are read back from their text, with anything behind it but a further
comma. -/
theorem readList?_listText {ms : List Matcher} (hne : ms ≠ [])
    (hnames : ∀ m ∈ ms, isIdentifier m.name) {rest : List Char} (hrest : rest.head? ≠ some ',') :
    readList? ((listText ms).toList ++ rest) = some (ms, rest) := by
  induction ms with
  | nil => exact absurd rfl hne
  | cons m later ih =>
    have hname : isIdentifier m.name := hnames m List.mem_cons_self
    cases later with
    | nil =>
      have htext : listText [m] = m.text := String.intercalate_singleton
      rw [htext]
      exact readList?_of_last (read?_text hname rest) hrest
    | cons next later =>
      have htext : (listText (m :: next :: later)).toList ++ rest =
          m.text.toList ++ ',' :: ((listText (next :: later)).toList ++ rest) := by
        rw [listText, List.map_cons, List.map_cons, String.intercalate_cons_cons,
          String.toList_append, String.toList_append, List.append_assoc, List.append_assoc]
        rfl
      have hlater := ih (List.cons_ne_nil next later) fun m hm =>
        hnames m (List.mem_cons_of_mem _ hm)
      rw [htext, readList?_of_comma (read?_text hname _), hlater]
      rfl

theorem readList?_listText_alone {ms : List Matcher} (hne : ms ≠ [])
    (hnames : ∀ m ∈ ms, isIdentifier m.name) : readList? (listText ms).toList = some (ms, []) := by
  rw [← List.append_nil (listText ms).toList]
  exact readList?_listText hne hnames (by simp)

/-- Different lists of matchers are never written the same. -/
theorem listText_injective {ms ms' : List Matcher} (hnames : ∀ m ∈ ms, isIdentifier m.name)
    (hnames' : ∀ m ∈ ms', isIdentifier m.name) (h : listText ms = listText ms') : ms = ms' := by
  have hread (l : List Matcher) (hl : ∀ m ∈ l, isIdentifier m.name) :
      (readList? (listText l).toList).elim [] Prod.fst = l := by
    by_cases hne : l = []
    · rw [hne]
      decide +kernel
    · rw [readList?_listText_alone hne hl]
      rfl
  rw [← hread ms hnames, h, hread ms' hnames']

end Matcher

/-! ## Derived queries -/

namespace Query

/-- A query of a description matches a replica and the labels of a drawn selection.  If the names of
these labels are identifiers, the text of the matchers reads back as the matchers. -/
def HasReadableMatchers (w : Workload) (d : QueryDescription) (q : Query) : Prop :=
  ∃ (template : QueryTemplate) (selection : Selection) (ms : List Matcher),
    QueryTemplate.parse d.expression = .ok template ∧
    selection.IsDrawnFrom (candidates w d.kind) w.replicas.toNat d.exactSeries ∧
    ms = ⟨replicaLabel, if d.regex then .regex else .equal, replicaName selection.replica⟩ ::
      selection.labels.map (fun label => ⟨label.name, .equal, label.value⟩) ∧
    q.expression = template.render selection.series.name (Matcher.listText ms) ∧
    ((∀ label ∈ selection.labels, Matcher.isIdentifier label.name) →
      Matcher.readList? (Matcher.listText ms).toList = some (ms, []))

theorem isIdentifier_replicaLabel : Matcher.isIdentifier replicaLabel = true := by
  decide

theorem isIdentifier_of_mem_matchers {selection : Selection} {operator : MatchOperator}
    (h : ∀ label ∈ selection.labels, Matcher.isIdentifier label.name = true) :
    ∀ m ∈ selection.matchers operator, Matcher.isIdentifier m.name = true := by
  intro m hm
  rcases List.mem_cons.1 hm with rfl | hm
  · exact isIdentifier_replicaLabel
  · obtain ⟨label, hlabel, rfl⟩ := List.mem_map.1 hm
    exact h label hlabel

theorem IsGroupOf.hasReadableMatchers {w : Workload} {d : QueryDescription} {group : List Query}
    (h : IsGroupOf w d group) : ∀ q ∈ group, HasReadableMatchers w d q := by
  intro q hq
  obtain ⟨template, selection, hparse, hdrawn, rfl⟩ := h.of_selection q hq
  exact ⟨template, selection, selection.matchers (replicaOperator d), hparse, hdrawn, rfl, rfl,
    fun hlabels => Matcher.readList?_listText_alone (List.cons_ne_nil _ _)
      (isIdentifier_of_mem_matchers hlabels)⟩

/-- A value between quotes is read back with anything behind it.  So are matchers whose names are
identifiers, and no two lists of them are written the same.  The matchers of every query that is
derived are read back as those of its replica and of its labels. -/
theorem matchers_stay_in_quotes :
    (∀ value rest : List Char,
      Matcher.scanLiteral? (Matcher.quote value ++ rest) = some (value, rest)) ∧
    (∀ (ms : List Matcher) (rest : List Char), ms ≠ [] →
      (∀ m ∈ ms, Matcher.isIdentifier m.name) → rest.head? ≠ some ',' →
        Matcher.readList? ((Matcher.listText ms).toList ++ rest) = some (ms, rest)) ∧
    (∀ ms ms' : List Matcher, (∀ m ∈ ms, Matcher.isIdentifier m.name) →
      (∀ m ∈ ms', Matcher.isIdentifier m.name) →
        Matcher.listText ms = Matcher.listText ms' → ms = ms') ∧
    ∀ (run : String) (w : Workload) (queries : List Query), derive run w = .ok queries →
      ∃ groups : List (List Query), queries = groups.flatten ∧
        List.Forall₂ (fun d group => ∀ q ∈ group, HasReadableMatchers w d q) w.queries groups := by
  refine ⟨Matcher.scanLiteral?_quote, fun ms rest hne hnames hrest => ?_,
    fun ms ms' => Matcher.listText_injective, fun run w queries hderive => ?_⟩
  · exact Matcher.readList?_listText hne hnames hrest
  · obtain ⟨groups, hqueries, hgroups⟩ := exists_groups_of_derive_eq_ok hderive
    exact ⟨groups, hqueries, hgroups.imp fun d group hgroup => hgroup.hasReadableMatchers⟩

/-- A workload with a label whose value looks like the end of its quotes and a further matcher. -/
def deceptiveWorkload : Workload where
  replicas := 2
  series := [⟨"cpu", .counterOne,
    ⟨[("path", "\\\",x=\"\x7d\n\\")], List.pairwise_singleton _ _⟩, []⟩]
  queries := [⟨2, "<<.Name>>\x7b<<.Matchers>>\x7d", .counterOne, .ofSeconds 10, none, true, true⟩]
  write := {}

theorem matchers_stay_in_quotes_deceptive :
    Matcher.scanLiteral? (Matcher.quote "a\\".toList ++ "\"".toList) =
        some ("a\\".toList, "\"".toList) ∧
      Matcher.readList?
          ((Matcher.listText [⟨"a", .regex, "\",b=\""⟩, ⟨"b", .equal, "\n\\"⟩]).toList ++
            "\x7d".toList) =
        some ([⟨"a", .regex, "\",b=\""⟩, ⟨"b", .equal, "\n\\"⟩], "\x7d".toList) ∧
      Matcher.listText [⟨"a", .equal, "\",b=\""⟩] ≠
        Matcher.listText [⟨"a", .equal, ""⟩, ⟨"b", .equal, ""⟩] ∧
      ∃ queries, derive "run" deceptiveWorkload = .ok queries ∧
        ∃ groups : List (List Query), queries = groups.flatten ∧
          List.Forall₂ (fun d group => ∀ q ∈ group, HasReadableMatchers deceptiveWorkload d q)
            deceptiveWorkload.queries groups := by
  obtain ⟨hliteral, hlist, hinjective, hderived⟩ := matchers_stay_in_quotes
  refine ⟨hliteral _ _, hlist _ _ (List.cons_ne_nil _ _) (by decide) (by decide), fun heq => ?_, ?_⟩
  · exact absurd (hinjective _ _ (by decide) (by decide) heq) (by decide)
  · have hchecks : ∀ d ∈ deceptiveWorkload.queries, ∃ template,
        check deceptiveWorkload d = .ok template := by
      intro d hd
      cases List.mem_singleton.1 hd
      exact ⟨⟨[.name, .literal "\x7b".toList, .matchers, .literal "\x7d".toList]⟩,
        by decide +kernel⟩
    obtain ⟨queries, hderive⟩ := exists_derive_eq_ok (by decide) hchecks "run"
    exact ⟨queries, hderive, hderived "run" deceptiveWorkload queries hderive⟩

end Query
end MetricLoad
