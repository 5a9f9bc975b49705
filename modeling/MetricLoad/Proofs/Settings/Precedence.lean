import MetricLoad.Launch
import MetricLoad.Proofs.Settings.Leaves

/-!
# Which layer a leaf comes from

Of the options of the command line, the variables of the environment and the settings file, each
overrides the next leaf by leaf, and what none of them gives has its standard value.  Two things
that are written in the file do not follow this rule on their own.  A section written as a list of
its fields counts for nothing as soon as a variable names a setting in it, and a table that a
variable gives is joined with a table of the file at the same place.

Whichever layer they come from, no threads and no time between two ring checks are refused.
-/

namespace MetricLoad

open Document Setting

/-- The content of a settings file, if there is one and it can be read. -/
def Setting.inFile? (file : Option (String × String)) : Option Setting :=
  file.bind fun (path, text) => (ofFile path text).toOption

/-- A machine that has its name from its environment. -/
def Machine.inEnvironment (bindings : List (String × String)) (cores : UInt64) : Machine :=
  ⟨bindings.lookup "HOSTNAME", cores⟩

/-- The variables for settings name leaves, and no leaf twice. -/
structure NameLeaves (bindings : List (String × String)) : Prop where
  leaf : ∀ path ∈ (assignments bindings).map (·.1), ∃ l, IsLeaf l ∧ l.path = path
  distinct : ((assignments bindings).map (·.1)).Nodup

/-- Variables name leaves when they name some leaves with different paths, one after the other. -/
theorem NameLeaves.of_leaves {bindings : List (String × String)} (leaves : List Leaf)
    (hleaves : ∀ l ∈ leaves, IsLeaf l)
    (hpaths : (assignments bindings).map (·.1) = leaves.map (·.path))
    (hdistinct : (leaves.map (·.path)).Nodup) : NameLeaves bindings where
  leaf := by
    rw [hpaths]
    intro path hpath
    obtain ⟨l, hl, rfl⟩ := List.mem_map.1 hpath
    exact ⟨l, hleaves l hl, rfl⟩
  distinct := hpaths ▸ hdistinct

namespace Leaf

/-- What stands at a leaf in the layers: what the file gives, with what is assigned laid over it. -/
def layered (l : Leaf) (file : Option Setting) (assignments : List (List String × Setting)) :
    Option Setting :=
  laid (file.bind (given assignments l.steps)) (assignments.lookup l.path)

/-- A leaf has a value by an option of the command line, or else by the layers, or else it has its
standard value on the machine. -/
def Holds (l : Leaf) (o : CommandLine.Options) (file : Option (String × String))
    (bindings : List (String × String)) (cores : UInt64) (x : l.Value) : Prop :=
  match l.option o with
  | some value => x = value
  | none =>
    Denotes l.read (l.get (.standard (.inEnvironment bindings cores)))
      (l.layered (inFile? file) (assignments bindings)) x

theorem Holds.unique {l : Leaf} {o : CommandLine.Options} {file : Option (String × String)}
    {bindings : List (String × String)} {cores : UInt64} {x y : l.Value}
    (hx : l.Holds o file bindings cores x) (hy : l.Holds o file bindings cores y) : x = y := by
  cases hoption : l.option o with
  | some value =>
    simp only [Holds, hoption] at hx hy
    exact hx.trans hy.symm
  | none =>
    simp only [Holds, hoption] at hx hy
    exact hx.unique hy

end Leaf

/-! ## Layers -/

/-- A settings file holds a table. -/
theorem Setting.exists_table_of_ofFile {path text : String} {v : Setting}
    (h : ofFile path text = .ok v) : ∃ layer entries, v = .table layer entries := by
  unfold ofFile Yaml.readText at h
  simp only at h
  split at h
  · next content hroot _ =>
    cases h
    obtain ⟨left, hroot⟩ := Read.following_eq_ok_iff.1 hroot
    obtain ⟨entries, between, -, htable⟩ := Read.bind_eq_ok_iff.1 hroot
    cases htable
    exact ⟨_, _, rfl⟩
  · exact nomatch h
  · split at h <;> exact nomatch h

namespace NameLeaves

variable {bindings : List (String × String)}

/-- The variables for settings are apart from one another. -/
theorem pairwise_apart (h : NameLeaves bindings) :
    (assignments bindings).Pairwise fun a b => Apart a.1 b.1 := by
  refine (List.pairwise_map.1 h.distinct).imp_of_mem fun {a b} ha hb hne => ?_
  obtain ⟨l, hl, hpath⟩ := h.leaf a.1 (List.mem_map_of_mem ha)
  obtain ⟨m, hm, hpath'⟩ := h.leaf b.1 (List.mem_map_of_mem hb)
  rw [← hpath, ← hpath'] at hne ⊢
  exact (hl.apart hm).resolve_left hne

/-- A variable names a leaf itself, or a setting apart from it. -/
theorem eq_or_apart (h : NameLeaves bindings) {l : Leaf} (hl : IsLeaf l) :
    ∀ a ∈ assignments bindings, a.1 = l.path ∨ Apart a.1 l.path := by
  intro a ha
  obtain ⟨m, hm, hpath⟩ := h.leaf a.1 (List.mem_map_of_mem ha)
  exact hpath ▸ hm.apart hl

end NameLeaves

/-! ## Loading -/

namespace Settings

variable {machine : Machine} {s : Settings}

theorem ofSetting_eq_ok {d : Setting} (h : ofSetting machine d = .ok s) :
    ((record machine).read d).outcome = .ok s ∧ s.threads ≠ 0 ∧
      s.ringCheck.interval ≠ .zero := by
  unfold ofSetting at h
  split at h
  · exact nomatch h
  · next read hread =>
    unfold check at h
    split_ifs at h with hthreads hinterval
    · exact nomatch h
    · exact nomatch h
    · cases h
      exact ⟨hread, hthreads, fun hzero => hinterval ((Duration.isZero_iff _).2 hzero)⟩

/-- Settings are loaded when the layers can be read and give what can be started with. -/
theorem load_eq_ok {file : Option (String × String)} {bindings : List (String × String)}
    (h : load machine file bindings = .ok s) :
    ∃ d, some d = laid (inFile? file) (some (ofEnvironment bindings)) ∧
      (∀ v ∈ inFile? file, ∃ layer entries, v = .table layer entries) ∧
      ((record machine).read d).outcome = .ok s ∧ s.threads ≠ 0 ∧
      s.ringCheck.interval ≠ .zero := by
  cases file with
  | none =>
    have hnone : ∀ v ∈ inFile? none, ∃ layer entries, v = .table layer entries :=
      fun v hv => absurd hv (Option.not_mem_none v)
    exact ⟨_, rfl, hnone, ofSetting_eq_ok h⟩
  | some source =>
    obtain ⟨path, text⟩ := source
    unfold load at h
    cases hfile : ofFile path text with
    | error cause =>
      simp only [hfile] at h
      exact nomatch h
    | ok content =>
      simp only [hfile] at h
      have hcontent : inFile? (some (path, text)) = some content := by
        show (ofFile path text).toOption = some content
        rw [hfile]
        rfl
      rw [hcontent]
      refine ⟨_, rfl, fun v hv => ?_, ofSetting_eq_ok h⟩
      cases hv
      exact exists_table_of_ofFile hfile

end Settings

/-- The command line overrides the leaves that it has an option for, and no others. -/
theorem IsLeaf.get_onto {l : Leaf} (h : IsLeaf l) (o : CommandLine.Options) (s : Settings) :
    l.get (o.onto s) = (l.option o).getD (l.get s) := by
  cases h <;> rfl

section

variable {bindings : List (String × String)} {file : Option (String × String)}
  {o : CommandLine.Options} {cores : UInt64} {s : Settings}

theorem Leaf.holds_onto (h : NameLeaves bindings)
    (hload : Settings.load (.inEnvironment bindings cores) file bindings = .ok s) {l : Leaf}
    (hl : IsLeaf l) : l.Holds o file bindings cores (l.get (o.onto s)) := by
  obtain ⟨d, hd, htable, hread, -⟩ := Settings.load_eq_ok hload
  have hlayers := given_laid_ofEnvironment h.pairwise_apart hl.steps_ne_nil (h.eq_or_apart hl)
    htable
  rw [← hd, Option.bind_some] at hlayers
  rw [hl.get_onto, Holds]
  cases l.option o with
  | some value => rfl
  | none =>
    have hdenotes := hl.isReadBy _ hread
    rw [hlayers] at hdenotes
    exact hdenotes

/-- Settings that are loaded have threads and time between ring checks, and their leaves come from
the layers. -/
theorem CommandLine.Options.settings_eq_ok (h : NameLeaves bindings)
    (hsettings : o.settings (.inEnvironment bindings cores) file bindings = .ok s) :
    (∀ l, IsLeaf l → l.Holds o file bindings cores (l.get s)) ∧ s.threads ≠ 0 ∧
      s.ringCheck.interval ≠ .zero := by
  unfold CommandLine.Options.settings at hsettings
  cases hload : Settings.load (.inEnvironment bindings cores) file bindings with
  | error e => rw [hload] at hsettings; exact nomatch hsettings
  | ok loaded =>
    rw [hload] at hsettings
    cases hsettings
    obtain ⟨-, -, -, -, hfit⟩ := Settings.load_eq_ok hload
    exact ⟨fun l hl => Leaf.holds_onto h hload hl, hfit⟩

end

/-- Every leaf of loaded settings is as an option of the command line has it, or else as its
variable denotes, or else as the file gives it, or else standard.  Settings without threads, or
without time between two ring checks, are not loaded, wherever these come from. -/
theorem settings_follow_precedence {bindings : List (String × String)} (h : NameLeaves bindings)
    (file : Option (String × String)) (o : CommandLine.Options) (cores : UInt64) :
    (∀ s, o.settings (.inEnvironment bindings cores) file bindings = .ok s →
      ∀ l, IsLeaf l → l.Holds o file bindings cores (l.get s)) ∧
    (Leaf.threads.Holds o file bindings cores (0 : UInt64) →
      ∃ e, o.settings (.inEnvironment bindings cores) file bindings = .error e) ∧
    (Leaf.ringCheckInterval.Holds o file bindings cores Duration.zero →
      ∃ e, o.settings (.inEnvironment bindings cores) file bindings = .error e) := by
  refine ⟨fun s hs => (CommandLine.Options.settings_eq_ok h hs).1, fun hzero => ?_, fun hzero => ?_⟩
  · cases hs : o.settings (.inEnvironment bindings cores) file bindings with
    | error e => exact ⟨e, rfl⟩
    | ok s =>
      obtain ⟨hleaves, hthreads, -⟩ := CommandLine.Options.settings_eq_ok h hs
      exact absurd ((hleaves _ .threads).unique hzero) hthreads
  · cases hs : o.settings (.inEnvironment bindings cores) file bindings with
    | error e => exact ⟨e, rfl⟩
    | ok s =>
      obtain ⟨hleaves, -, hinterval⟩ := CommandLine.Options.settings_eq_ok h hs
      exact absurd ((hleaves _ .ringCheckInterval).unique hzero) hinterval

/-! ## Layers at work -/

theorem Document.Denotes.of_outcome {α : Type} {read : Setting → Read α} {standard a : α}
    {value : Option Setting} (h : value.map (fun v => (read v).outcome) = some (.ok a)) :
    Denotes read standard value a := by
  obtain ⟨v, rfl, hv⟩ := Option.map_eq_some_iff.1 h
  exact hv

/-- A file with some leaves, one of which is given by the position in a list. -/
def layeredFile : Option (String × String) :=
  some ("bench.yaml", "id: file\nwrite:\n  endpoint: db:1\n  workers: 3\nquery: [true]\n")

/-- Variables over that file, and the name of the machine. -/
def layeredBindings : List (String × String) :=
  [("HOSTNAME", "host"), ("BENCH__ID", "env"), ("bench__write__workers", "7")]

theorem nameLeaves_layeredBindings : NameLeaves layeredBindings := by
  have hworkers := List.getElem_mem (l := WriteSettings.leaves) (n := 3) (by decide)
  exact .of_leaves [.id, _]
    (List.forall_mem_cons.2 ⟨.id, List.forall_mem_singleton.2 (.write hworkers)⟩)
    (by decide +kernel) (by decide)

/-- A file without threads and without time between two ring checks. -/
def idleFile : Option (String × String) :=
  some ("idle.yaml", "runtime: [0]\nring_check:\n  interval: 0s\n")

theorem nameLeaves_nil : NameLeaves [] :=
  .of_leaves [] (List.forall_mem_nil _) rfl List.nodup_nil

/-- An option over a variable over a file over what is standard, and a file that is refused. -/
theorem settings_follow_precedence_layered :
    NameLeaves layeredBindings ∧
      (∃ s, CommandLine.Options.settings ⟨none, none, some "cli"⟩
          (.inEnvironment layeredBindings 4) layeredFile layeredBindings = .ok s ∧
        (∀ l, IsLeaf l → l.Holds ⟨none, none, some "cli"⟩ layeredFile layeredBindings 4 (l.get s)) ∧
        s.id = "cli" ∧ s.write.workers = 7 ∧ s.write.endpoint = "db:1" ∧ s.query.enabled = true ∧
        s.threads = 4) ∧
      NameLeaves [] ∧ Leaf.threads.Holds {} idleFile [] 4 (0 : UInt64) ∧
      Leaf.ringCheckInterval.Holds {} idleFile [] 4 Duration.zero ∧
      ∃ e, CommandLine.Options.settings {} (.inEnvironment [] 4) idleFile [] = .error e := by
  have hok : CommandLine.Options.settings ⟨none, none, some "cli"⟩
      (.inEnvironment layeredBindings 4) layeredFile layeredBindings = .ok
        { id := "cli", threads := 4, write := { endpoint := "db:1", workers := 7 },
          query := { enabled := true } } := by
    decide +kernel
  have hthreads : ((Leaf.threads.layered (inFile? idleFile) (assignments [])).map fun v =>
      (size v).outcome) = some (.ok 0) := by
    decide +kernel
  have hinterval : ((Leaf.ringCheckInterval.layered (inFile? idleFile) (assignments [])).map
      fun v => (duration v).outcome) = some (.ok .zero) := by
    decide +kernel
  have hlayers := settings_follow_precedence nameLeaves_layeredBindings layeredFile
    ⟨none, none, some "cli"⟩ 4
  have hidle := settings_follow_precedence nameLeaves_nil idleFile {} 4
  exact ⟨nameLeaves_layeredBindings, ⟨_, hok, hlayers.1 _ hok, rfl, rfl, rfl, rfl, rfl⟩,
    nameLeaves_nil, .of_outcome hthreads, .of_outcome hinterval,
    hidle.2.1 (.of_outcome hthreads)⟩

/-- A leaf has a value by the plain rule: by an option of the command line, or else by its variable
alone, or else by the file alone, or else it is standard. -/
def Leaf.HoldsPlainly (l : Leaf) (o : CommandLine.Options) (inFile : Option Setting)
    (bindings : List (String × String)) (cores : UInt64) (x : l.Value) : Prop :=
  match l.option o with
  | some value => x = value
  | none =>
    Denotes l.read (l.get (.standard (.inEnvironment bindings cores)))
      (((assignments bindings).lookup l.path).or inFile) x

/-- A file with two sections that are lists of their first fields. -/
def listedFile : Option (String × String) :=
  some ("listed.yaml", "write: [false, 'db:1']\nquery: [true]\n")

/-- A variable for a setting in one of the two sections. -/
def listedBindings : List (String × String) :=
  [("BENCH__QUERY__WORKERS", "7")]

theorem nameLeaves_listedBindings : NameLeaves listedBindings := by
  have hworkers := List.getElem_mem (l := QuerySettings.leaves) (n := 4) (by decide)
  exact .of_leaves [_] (List.forall_mem_singleton.2 (.query hworkers)) (by decide +kernel)
    (List.pairwise_singleton _ _)

/-- A file in which the format of log records is a table that names it. -/
def joinedFile : Option (String × String) :=
  some ("joined.yaml", "logging:\n  format:\n    json: null\n")

/-- A variable that gives a table for the same setting, with content that no format has. -/
def joinedBindings : List (String × String) :=
  [("BENCH__LOGGING__FORMAT", "\x7bpretty=1\x7d")]

theorem nameLeaves_joinedBindings : NameLeaves joinedBindings := by
  have hformat := List.getElem_mem (l := LoggingSettings.leaves) (n := 1) (by decide)
  exact .of_leaves [_] (List.forall_mem_singleton.2 (.logging hformat)) (by decide +kernel)
    (List.pairwise_singleton _ _)

/-- The plain rule does not hold.  Whether the items of a list count as values of the file or not, a
leaf differs, and a leaf differs whose variable could not be read alone. -/
theorem plain_precedence_fails :
    (NameLeaves listedBindings ∧ ∃ s : Settings,
      CommandLine.Options.settings {} (.inEnvironment listedBindings 4) listedFile listedBindings =
        .ok s ∧
      (∃ l, IsLeaf l ∧ ¬ l.HoldsPlainly {} ((inFile? listedFile).bind (given [] l.steps))
        listedBindings 4 (l.get s)) ∧
      ∃ l, IsLeaf l ∧ ¬ l.HoldsPlainly {} ((inFile? listedFile).bind (at? (l.path.map .inl)))
        listedBindings 4 (l.get s)) ∧
    (NameLeaves joinedBindings ∧ ∃ s : Settings,
      CommandLine.Options.settings {} (.inEnvironment joinedBindings 4) joinedFile joinedBindings =
        .ok s ∧
      ∃ l, IsLeaf l ∧ ¬ l.HoldsPlainly {} ((inFile? joinedFile).bind (given [] l.steps))
        joinedBindings 4 (l.get s)) := by
  have hlisted : CommandLine.Options.settings {} (.inEnvironment listedBindings 4) listedFile
      listedBindings = .ok
        { id := "benchtool", threads := 4,
          write := { enabled := false, endpoint := "db:1" }, query := { workers := 7 } } := by
    decide +kernel
  have hjoined : CommandLine.Options.settings {} (.inEnvironment joinedBindings 4) joinedFile
      joinedBindings = .ok
        { id := "benchtool", threads := 4, logging := { format := .json } } := by
    decide +kernel
  have hquery := List.getElem_mem (l := QuerySettings.leaves) (n := 0) (by decide)
  have hwrite := List.getElem_mem (l := WriteSettings.leaves) (n := 0) (by decide)
  have hformat := List.getElem_mem (l := LoggingSettings.leaves) (n := 1) (by decide)
  refine ⟨⟨nameLeaves_listedBindings, _, hlisted, ⟨_, .query hquery, fun h => ?_⟩,
    ⟨_, .write hwrite, fun h => ?_⟩⟩, nameLeaves_joinedBindings, _, hjoined,
    ⟨_, .logging hformat, fun h => ?_⟩⟩
  · have hfile : (((assignments listedBindings).lookup ["query", "enabled"]).or
        ((inFile? listedFile).bind (given [] [(Settings.fieldNames, "query"),
          (QuerySettings.fieldNames, "enabled")]))).map (fun v => (flag v).outcome) =
        some (.ok true) := by
      decide +kernel
    have hsame : false = true := Denotes.unique h (.of_outcome hfile)
    exact nomatch hsame
  · have hfile : (((assignments listedBindings).lookup ["write", "enabled"]).or
        ((inFile? listedFile).bind (at? [.inl "write", .inl "enabled"]))).isNone := by
      decide +kernel
    have hstandard : Denotes flag true (((assignments listedBindings).lookup
        ["write", "enabled"]).or ((inFile? listedFile).bind (at? [.inl "write", .inl "enabled"])))
        true := by
      rw [Option.isNone_iff_eq_none.1 hfile]
      rfl
    have hsame : false = true := Denotes.unique h hstandard
    exact nomatch hsame
  · have hfile : (((assignments joinedBindings).lookup ["logging", "format"]).or
        ((inFile? joinedFile).bind (given [] [(Settings.fieldNames, "logging"),
          ((LoggingSettings.record (δ := Setting)).fields, "format")]))).map
          (fun v => (Logging.Format.read v).outcome.isOk) = some false := by
      decide +kernel
    obtain ⟨v, hv, hrefused⟩ := Option.map_eq_some_iff.1 hfile
    have hread : Denotes Logging.Format.read .auto (some v) .json := hv ▸ h
    have hread : (Logging.Format.read v).outcome = .ok .json := hread
    rw [hread] at hrefused
    exact nomatch hrefused

end MetricLoad
