import MetricLoad.Settings.Environment
import Mathlib.Data.List.Pairwise
import Mathlib.Data.String.Basic

/-!
# One layer over another

Variables assign values to paths of names.  As long as no assigned path leads on from another one,
the environment is the tree of tables that spells the assignments out: at the end of every assigned
path stands its value, and on the way there stand tables that hold nothing else.

Laid over a file, such a tree decides path by path.  At the end of some steps stands what the file
gives there with the assigned value laid over it.  A list of the fields of a record gives its items
only as long as no field of the record is assigned: a table takes the place of a list as a whole.
-/

namespace MetricLoad.Setting

/-! ## Entries by name -/

theorem find?_cons (name key : String) (value : Setting) (entries : List (String × Setting)) :
    find? name ((key, value) :: entries) =
      if key = name then some value else find? name entries := by
  by_cases h : key = name
  · simp [find?, h]
  · simp [find?, h]

/-- An entry that is put is found under its name. -/
theorem find?_put_self (name : String) (value : Setting) (entries : List (String × Setting)) :
    find? name (put name value entries) = some value := by
  induction entries with
  | nil => rw [put, find?_cons, if_pos rfl]
  | cons entry rest ih =>
    obtain ⟨first, old⟩ := entry
    rw [put]
    split_ifs with hbefore hsame
    · rw [find?_cons, if_pos rfl]
    · rw [find?_cons, if_pos rfl]
    · rw [find?_cons, if_neg (Ne.symm hsame), ih]

/-- An entry that is put changes nothing under other names. -/
theorem find?_put_of_ne {name key : String} (hname : key ≠ name) (value : Setting)
    (entries : List (String × Setting)) :
    find? name (put key value entries) = find? name entries := by
  induction entries with
  | nil => rw [put, find?_cons, if_neg hname]
  | cons entry rest ih =>
    obtain ⟨first, old⟩ := entry
    rw [put]
    split_ifs with hbefore hsame
    · rw [find?_cons, if_neg hname]
    · rw [find?_cons, if_neg hname, find?_cons, if_neg (hsame ▸ hname)]
    · rw [find?_cons, find?_cons, ih]

/-- Entries in increasing order of their names. -/
def Ordered (entries : List (String × Setting)) : Prop :=
  (entries.map (·.1)).Pairwise (· < ·)

theorem ordered_singleton (name : String) (value : Setting) : Ordered [(name, value)] :=
  List.pairwise_singleton _ _

theorem mem_keys_put {name key : String} {value : Setting} {entries : List (String × Setting)}
    (h : name ∈ (put key value entries).map (·.1)) : name = key ∨ name ∈ entries.map (·.1) := by
  induction entries with
  | nil => exact .inl (List.mem_singleton.1 h)
  | cons entry rest ih =>
    obtain ⟨first, old⟩ := entry
    rw [put] at h
    split_ifs at h with hbefore hsame
    · exact List.mem_cons.1 h
    · exact (List.mem_cons.1 h).imp_right (List.mem_cons_of_mem _)
    · rcases List.mem_cons.1 h with hfirst | hrest
      · exact .inr (hfirst ▸ List.mem_cons_self)
      · exact (ih hrest).imp_right (List.mem_cons_of_mem _)

theorem Ordered.put {entries : List (String × Setting)} (h : Ordered entries) (key : String)
    (value : Setting) : Ordered (put key value entries) := by
  induction entries with
  | nil => exact List.pairwise_singleton _ _
  | cons entry rest ih =>
    obtain ⟨first, old⟩ := entry
    obtain ⟨hfirst, hrest⟩ := List.pairwise_cons.1 h
    rw [Setting.put]
    split_ifs with hbefore hsame
    · refine List.pairwise_cons.2 ⟨fun other hother => ?_, h⟩
      rcases List.mem_cons.1 hother with rfl | hother
      · exact hbefore
      · exact hbefore.trans (hfirst other hother)
    · exact List.pairwise_cons.2 ⟨fun other hother => hsame ▸ hfirst other hother, hrest⟩
    · refine List.pairwise_cons.2 ⟨fun other hother => ?_, ih hrest⟩
      rcases mem_keys_put hother with rfl | hother
      · exact lt_of_le_of_ne (not_lt.1 hbefore) fun h => hsame h.symm
      · exact hfirst other hother

/-! ## Values over values -/

/-- A value that may be there, with another one laid over it that may be there as well. -/
def laid : Option Setting → Option Setting → Option Setting
  | some old, some new => some (old.overlay new)
  | old, none => old
  | none, new => new

@[simp]
theorem laid_none_left (new : Option Setting) : laid none new = new := by
  cases new <;> rfl

@[simp]
theorem laid_none_right (old : Option Setting) : laid old none = old := by
  cases old <;> rfl

/-- Entries laid over others decide name by name. -/
theorem find?_overlayEntries (name : String) {old new : List (String × Setting)}
    (hnew : Ordered new) :
    find? name (overlayEntries old new) = laid (find? name old) (find? name new) := by
  induction new generalizing old with
  | nil => rw [overlayEntries]; exact (laid_none_right _).symm
  | cons entry rest ih =>
    obtain ⟨key, value⟩ := entry
    obtain ⟨hkey, hrest⟩ := List.pairwise_cons.1 hnew
    rw [overlayEntries, ih hrest, find?_cons]
    by_cases hname : key = name
    · -- The name stands in front, so it does not come again.
      subst hname
      have hnone : find? key rest = none := by
        rw [find?, Option.map_eq_none_iff, List.find?_eq_none]
        intro entry hentry hsame
        have hlt := hkey _ (List.mem_map_of_mem hentry)
        exact lt_irrefl _ (eq_of_beq hsame ▸ hlt)
      rw [hnone, laid_none_right, if_pos rfl, find?_put_self]
      cases find? key old <;> rfl
    · rw [if_neg hname, find?_put_of_ne hname]

/-! ## Members of records -/

/-- The member of a record with a name: an entry of a table, or the item of a list that stands at
the position of the field. -/
def member? (fields : List String) (name : String) : Setting → Option Setting
  | table _ entries => find? name entries
  | list _ items => find? name (fields.zip items)
  | scalar .. => none

/-- Under a table lies what is a table as well; its members are the entries. -/
theorem member?_laid_table (fields : List String) (name : String) (old : Option Setting)
    (layer : Layer) {new : List (String × Setting)} (hnew : Ordered new) :
    (laid old (some (table layer new))).bind (member? fields name) =
      laid (old.bind (member? [] name)) (find? name new) := by
  cases old with
  | none => exact (laid_none_left _).symm
  | some old =>
    cases old with
    | scalar => exact (laid_none_left _).symm
    | list => exact (laid_none_left _).symm
    | table _ entries => exact find?_overlayEntries name hnew

/-- The assignments to settings within the member with a name, by their paths from there. -/
def within (name : String) (assignments : List (List String × Setting)) :
    List (List String × Setting) :=
  assignments.filterMap fun (path, value) =>
    match path with
    | [] => none
    | first :: rest => if first = name then some (rest, value) else none

/-- What a value gives at the end of some steps, each a name among the fields of a record, when
values are assigned to some of the settings in it. -/
def given (assignments : List (List String × Setting)) :
    List (List String × String) → Setting → Option Setting
  | [], value => some value
  | (fields, name) :: rest, value =>
    -- A list of fields counts as long as none of them is assigned.
    (value.member? (if assignments.isEmpty then fields else []) name).bind
      (given (within name assignments) rest)

theorem within_cons (name first : String) (path : List String) (value : Setting)
    (assignments : List (List String × Setting)) :
    within name ((first :: path, value) :: assignments) =
      if first = name then (path, value) :: within name assignments
      else within name assignments := by
  rw [within, List.filterMap_cons]
  by_cases hname : first = name
  · simp only [if_pos hname, within]
  · simp only [if_neg hname, within]

theorem mem_within {name : String} {path : List String} {value : Setting}
    {assignments : List (List String × Setting)} :
    (path, value) ∈ within name assignments ↔ (name :: path, value) ∈ assignments := by
  constructor
  · intro h
    obtain ⟨⟨assigned, content⟩, hmem, hsome⟩ := List.mem_filterMap.1 h
    cases assigned with
    | nil => exact nomatch hsome
    | cons first rest =>
      dsimp only at hsome
      split_ifs at hsome with hname
      cases hsome
      exact hname ▸ hmem
  · intro h
    exact List.mem_filterMap.2 ⟨_, h, if_pos rfl⟩

theorem lookup_within (name : String) (path : List String)
    (assignments : List (List String × Setting)) :
    (within name assignments).lookup path = assignments.lookup (name :: path) := by
  induction assignments with
  | nil => rfl
  | cons assignment rest ih =>
    obtain ⟨assigned, value⟩ := assignment
    cases assigned with
    | nil => exact ih
    | cons first behind =>
      rw [within_cons, List.lookup_cons]
      by_cases hname : first = name
      · rw [if_pos hname, List.lookup_cons, ih, hname]
        simp
      · have hother : (name :: path == first :: behind) = false := by
          simpa using fun h => absurd h.symm hname
        rw [if_neg hname, ih, hother]

/-! ## The tree of some assignments -/

/-- What spells out some assignments: nothing when there are none, the value itself when it alone is
assigned, and else a table that spells out what is assigned within its members. -/
inductive Spells : List (List String × Setting) → Option Setting → Prop
  | nothing : Spells [] none
  | value (v : Setting) : Spells [([], v)] (some v)
  | table {assignments : List (List String × Setting)} {entries : List (String × Setting)}
      (layer : Layer) (some_assigned : assignments ≠ [])
      (within_members : ∀ a ∈ assignments, a.1 ≠ []) (ordered : Ordered entries)
      (members : ∀ name, Spells (within name assignments) (find? name entries)) :
      Spells assignments (some (.table layer entries))

/-- Neither of two paths leads on from the other one. -/
def Apart (p q : List String) : Prop :=
  ¬ p <+: q ∧ ¬ q <+: p

theorem apart_cons {name : String} {p q : List String} :
    Apart (name :: p) (name :: q) ↔ Apart p q := by
  rw [Apart, Apart, List.cons_prefix_cons, List.cons_prefix_cons]
  simp

theorem within_append_self (name : String) (path : List String) (v : Setting)
    (assignments : List (List String × Setting)) :
    within name (assignments ++ [(name :: path, v)]) = within name assignments ++ [(path, v)] := by
  rw [within, List.filterMap_append]
  simp [within]

theorem within_append_of_ne {name other : String} (hne : name ≠ other) (path : List String)
    (v : Setting) (assignments : List (List String × Setting)) :
    within other (assignments ++ [(name :: path, v)]) = within other assignments := by
  rw [within, List.filterMap_append]
  simp [within, hne]

/-- A table with a further assignment within one of its members. -/
theorem Spells.table_assign {assignments : List (List String × Setting)}
    {entries : List (String × Setting)} (hpaths : ∀ a ∈ assignments, a.1 ≠ [])
    (hordered : Ordered entries)
    (hmembers : ∀ name, Spells (within name assignments) (find? name entries))
    {name : String} {path : List String} {v : Setting}
    (hmember : Spells (within name assignments ++ [(path, v)])
      (laid (find? name entries) (some (nested .environment path v)))) :
    Spells (assignments ++ [(name :: path, v)])
      (some (.table .environment
        (overlayEntries entries [(name, nested .environment path v)]))) := by
  refine .table _ (List.append_ne_nil_of_right_ne_nil _ (List.cons_ne_nil _ _)) ?_
    (hordered.put name _) fun other => ?_
  · intro a ha
    rcases List.mem_append.1 ha with ha | ha
    · exact hpaths a ha
    · rw [List.mem_singleton.1 ha]
      exact List.cons_ne_nil _ _
  · rw [find?_overlayEntries other (ordered_singleton _ _), find?_cons]
    by_cases hname : name = other
    · subst hname
      rwa [if_pos rfl, within_append_self]
    · rw [if_neg hname, within_append_of_ne hname]
      exact (laid_none_right _).symm ▸ hmembers other

/-- A further assignment, apart from the others, is laid over the tree as tables of one entry. -/
theorem Spells.assign {assignments : List (List String × Setting)} {tree : Option Setting}
    (h : Spells assignments tree) {path : List String}
    (hapart : ∀ a ∈ assignments, Apart a.1 path) (v : Setting) :
    Spells (assignments ++ [(path, v)])
      (laid tree (some (nested .environment path v))) := by
  induction path generalizing assignments tree with
  | nil =>
    cases h with
    | nothing => exact .value v
    | value => exact absurd List.nil_prefix (hapart _ List.mem_cons_self).2
    | table _ hne =>
      obtain ⟨a, ha⟩ := List.exists_mem_of_ne_nil _ hne
      exact absurd List.nil_prefix (hapart a ha).2
  | cons name path ih =>
    have hinner : ∀ a ∈ within name assignments, Apart a.1 path := fun a ha =>
      apart_cons.1 (hapart (name :: a.1, a.2) (mem_within.1 ha))
    cases h with
    | nothing =>
      have hmembers : ∀ other, Spells (within other []) (find? other []) := fun _ => .nothing
      have hordered : Ordered [] := List.Pairwise.nil
      exact .table_assign (fun a ha => absurd ha List.not_mem_nil) hordered hmembers
        (ih (hmembers name) hinner)
    | value => exact absurd List.nil_prefix (hapart _ List.mem_cons_self).1
    | table layer _ hpaths hordered hmembers =>
      exact .table_assign hpaths hordered hmembers (ih (hmembers name) hinner)

/-! ## Reading through the tree -/

/-- Laid over a value, a tree of assignments leaves at the end of some steps what the value gives
there, with the value that is assigned to that path laid over it. -/
theorem Spells.given_laid {assignments : List (List String × Setting)} {tree : Option Setting}
    (h : Spells assignments tree) {steps : List (List String × String)}
    (hpath : ∀ a ∈ assignments, a.1 = steps.map (·.2) ∨ Apart a.1 (steps.map (·.2)))
    (old : Option Setting) :
    (laid old tree).bind (given [] steps) =
      laid (old.bind (given assignments steps)) (assignments.lookup (steps.map (·.2))) := by
  induction steps generalizing assignments tree old with
  | nil =>
    cases h with
    | nothing => cases old <;> rfl
    | value v => cases old <;> rfl
    | table _ hne hpaths =>
      obtain ⟨a, ha⟩ := List.exists_mem_of_ne_nil _ hne
      exact absurd ((hpath a ha).resolve_right fun hapart => hapart.2 List.nil_prefix) (hpaths a ha)
  | cons step rest ih =>
    obtain ⟨fields, name⟩ := step
    cases h with
    | nothing => rw [laid_none_right]; exact (laid_none_right _).symm
    | value =>
      rcases hpath _ List.mem_cons_self with hsame | hapart
      · exact nomatch hsame
      · exact absurd List.nil_prefix hapart.1
    | table layer hne hpaths hordered hmembers =>
      have hrest : ∀ a ∈ within name assignments,
          a.1 = rest.map (·.2) ∨ Apart a.1 (rest.map (·.2)) := fun a ha =>
        (hpath (name :: a.1, a.2) (mem_within.1 ha)).imp List.tail_eq_of_cons_eq apart_cons.1
      have hempty : assignments.isEmpty = false := by simpa using hne
      calc
        _ = ((laid old (some (.table layer _))).bind (member? fields name)).bind (given [] rest) :=
          (Option.bind_assoc _ _ _).symm
        _ = (laid (old.bind (member? [] name)) (find? name _)).bind (given [] rest) := by
          rw [member?_laid_table fields name old layer hordered]
        _ = laid ((old.bind (member? [] name)).bind (given (within name assignments) rest))
              ((within name assignments).lookup (rest.map (·.2))) := ih (hmembers name) hrest _
        _ = _ := by
          rw [lookup_within, Option.bind_assoc]
          simp only [given, hempty, Bool.false_eq_true, if_false, List.map_cons]

/-! ## The environment -/

/-- What variables assign to the paths that they name. -/
def assignments (bindings : List (String × String)) : List (List String × Setting) :=
  bindings.filterMap fun (name, value) =>
    (pathOf? name).map fun path => (path, ofVariable value)

/-- Assignments laid over a value one after the other. -/
def assigned (value : Setting) (assignments : List (List String × Setting)) : Setting :=
  assignments.foldl (fun value a => value.overlay (nested .environment a.1 a.2)) value

theorem ofEnvironment_eq_assigned (bindings : List (String × String)) :
    ofEnvironment bindings = assigned (.table .environment []) (assignments bindings) := by
  rw [assigned, assignments, List.foldl_filterMap, ofEnvironment]
  congr 1
  funext settings binding
  cases h : pathOf? binding.1 <;> simp only [h, Option.map_none, Option.map_some]

theorem Spells.assigned {before : List (List String × Setting)} {tree : Setting}
    (h : Spells before (some tree)) {rest : List (List String × Setting)}
    (hapart : (before ++ rest).Pairwise fun a b => Apart a.1 b.1) :
    Spells (before ++ rest) (some (tree.assigned rest)) := by
  induction rest generalizing before tree with
  | nil => rwa [List.append_nil]
  | cons a rest ih =>
    rw [List.append_cons] at hapart ⊢
    have hfirst : ∀ b ∈ before, Apart b.1 a.1 := fun b hb =>
      (List.pairwise_append.1 (List.pairwise_append.1 hapart).1).2.2 b hb a List.mem_cons_self
    exact ih (h.assign hfirst a.2) hapart

/-- Assignments apart from one another are spelled out by the environment, unless there are none. -/
theorem spells_ofEnvironment {bindings : List (String × String)}
    (hapart : (assignments bindings).Pairwise fun a b => Apart a.1 b.1)
    (hpaths : ∀ a ∈ assignments bindings, a.1 ≠ []) (hsome : assignments bindings ≠ []) :
    Spells (assignments bindings) (some (ofEnvironment bindings)) := by
  rw [ofEnvironment_eq_assigned]
  cases hall : assignments bindings with
  | nil => exact absurd hall hsome
  | cons a rest =>
    rw [hall] at hapart hpaths
    obtain ⟨path, value⟩ := a
    cases path with
    | nil => exact absurd rfl (hpaths _ List.mem_cons_self)
    | cons first path =>
      have hfirst : Spells [(first :: path, value)]
          (some (nested .environment (first :: path) value)) :=
        Spells.nothing.assign (fun _ ha => absurd ha List.not_mem_nil) value
      exact hfirst.assigned hapart

/-- Through the layers, a path leads to what the file gives there with what the environment assigns
to it laid over it. -/
theorem given_laid_ofEnvironment {bindings : List (String × String)}
    (hapart : (assignments bindings).Pairwise fun a b => Apart a.1 b.1)
    {steps : List (List String × String)} (hsteps : steps ≠ [])
    (hpath : ∀ a ∈ assignments bindings,
      a.1 = steps.map (·.2) ∨ Apart a.1 (steps.map (·.2)))
    {old : Option Setting} (hold : ∀ v ∈ old, ∃ layer entries, v = .table layer entries) :
    (laid old (some (ofEnvironment bindings))).bind (given [] steps) =
      laid (old.bind (given (assignments bindings) steps))
        ((assignments bindings).lookup (steps.map (·.2))) := by
  by_cases hsome : assignments bindings = []
  · obtain ⟨⟨fields, name⟩, rest, rfl⟩ := List.exists_cons_of_ne_nil hsteps
    rw [ofEnvironment_eq_assigned, hsome, List.lookup_nil, laid_none_right]
    cases old with
    | none => rfl
    | some v =>
      obtain ⟨layer, entries, rfl⟩ := hold v rfl
      rfl
  · have hpaths : ∀ a ∈ assignments bindings, a.1 ≠ [] := by
      intro a ha hnil
      rcases hpath a ha with hsame | hapart
      · exact hsteps (List.map_eq_nil_iff.1 (hsame.symm.trans hnil))
      · exact hapart.1 (hnil ▸ List.nil_prefix)
    exact (spells_ofEnvironment hapart hpaths hsome).given_laid hpath old

end MetricLoad.Setting
