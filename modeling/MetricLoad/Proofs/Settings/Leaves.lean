import MetricLoad.CommandLine
import MetricLoad.Proofs.Settings.Reading

/-!
# The leaves of the settings

Settings are records of records, and what is not a record itself is a leaf: a flag, a number, a
text, a list of instances.  Credentials are a record that may be absent, with two leaves, and every
tag of the error tracking is a leaf of its own.

For every record there are the fields that it has.  From them the leaves are put together, each with
the steps that lead to it, its place in the settings and the reader of what it may hold.
-/

namespace MetricLoad

open Document

/-! ## Records and their fields -/

namespace Http.Credentials

/-- The fields of credentials while they are read. -/
def draftFields : List (RecordField Draft) :=
  [⟨"username", Option String, (·.username), stated (text "a string")⟩,
    ⟨"password", Option String, (·.password), stated (text "a string")⟩]

theorem record_has : Record.Has (α := Http.Credentials) record draftFields := by
  refine ⟨by simp [draftFields, record], fun draft name d => ?_⟩
  show (readField draft name d).Yields _
  have hstated (v : String) (hv : (text "a string" d).outcome = .ok v) :
      (stated (text "a string") d).outcome = .ok (some v) :=
    (text_direct d _).outcome_store_eq_ok_iff.2 ⟨v, hv, rfl⟩
  simp only [draftFields, List.forall_mem_cons, RecordField.Follows]
  unfold readField
  split
  · exact .store (text_direct d _) fun v hv => by simp [hstated v hv]
  · exact .store (text_direct d _) fun v hv => by simp [hstated v hv]
  · exact .pure (by simp_all)

/-- The names of the fields. -/
def fieldNames : List String :=
  (record (δ := Setting)).fields

/-- The leaves of credentials that may be absent. -/
def leaves : List (RecordPart (Option Http.Credentials)) :=
  [⟨[(fieldNames, "username")], Option String, Option.map (·.username),
      stated (text "a string")⟩,
    ⟨[(fieldNames, "password")], Option String, Option.map (·.password),
      stated (text "a string")⟩]

theorem eq_some_of_ofDraft {draft : Draft} {c : Http.Credentials} (h : ofDraft draft = .ok c) :
    draft.username = some c.username ∧ draft.password = some c.password := by
  obtain ⟨username, password⟩ := draft
  cases username with
  | none => exact nomatch h
  | some username =>
    cases password with
    | none => exact nomatch h
    | some password =>
      cases h
      exact ⟨rfl, rfl⟩

theorem isReadBy_field {f : RecordField Draft} (hf : f ∈ draftFields)
    {get : Option Http.Credentials → f.Value} (hnone : get none = f.get {})
    (hsome : ∀ {draft c}, ofDraft draft = .ok c → get (some c) = f.get draft) :
    RecordPart.IsReadBy ⟨[(fieldNames, f.name)], f.Value, get, f.read⟩ (optional record.read)
      none := by
  refine isReadBy_optional record_has.read_direct (List.cons_ne_nil _ _) fun {d c} h => ?_
  obtain ⟨draft, hfinish, hread⟩ := record_has.read hf h
  have hgiven : d.given [] [(fieldNames, f.name)] = d.member? fieldNames f.name :=
    Option.bind_fun_some _
  show Denotes f.read (get none) (d.given [] [(fieldNames, f.name)]) (get (some c))
  rw [hnone, hsome hfinish, hgiven]
  exact hread

theorem isReadBy_leaves : ∀ p ∈ leaves, p.IsReadBy (optional record.read) none := by
  simp only [leaves, List.forall_mem_cons]
  refine ⟨?_, ?_, fun p hp => absurd hp List.not_mem_nil⟩
  · exact isReadBy_field (f := ⟨"username", _, (·.username), _⟩) List.mem_cons_self rfl
      fun h => (eq_some_of_ofDraft h).1.symm
  · exact isReadBy_field (f := ⟨"password", _, (·.password), _⟩)
      (List.mem_cons_of_mem _ List.mem_cons_self) rfl fun h => (eq_some_of_ofDraft h).2.symm

end Http.Credentials

namespace WriteSettings

/-- The fields of the write benchmark that are leaves. -/
def leafFields : List (RecordField WriteSettings) :=
  [⟨"enabled", Bool, (·.enabled), flag⟩,
    ⟨"endpoint", String, (·.endpoint), text "a string"⟩,
    ⟨"tenant_id", Option String, (·.tenant), optional (text "a string")⟩,
    ⟨"workers", UInt64, (·.workers), size⟩,
    ⟨"batch_size", UInt64, (·.options.batchSize), size⟩,
    ⟨"send_interval", Duration, (·.options.interval), duration⟩,
    ⟨"timeout", Duration, (·.options.timeout), duration⟩]

/-- The field with the credentials. -/
def credentialsField : RecordField WriteSettings :=
  ⟨"basic_auth", Option Http.Credentials, (·.credentials), optional Http.Credentials.record.read⟩

theorem record_has : record.Has (credentialsField :: leafFields) := by
  refine ⟨by simp [credentialsField, leafFields, record, defaulted], fun s name d => ?_⟩
  show (readField s name d).Yields _
  simp only [credentialsField, leafFields, List.forall_mem_cons, RecordField.Follows]
  unfold readField
  split
  · exact .store (flag_direct d) fun v hv => by simp [hv]
  · exact .store (text_direct d _) fun v hv => by simp [hv]
  · exact .store (optional_direct d fun d => text_direct d _) fun v hv => by simp [hv]
  · exact .store (optional_direct d Http.Credentials.record_has.read_direct) fun v hv => by
      simp [hv]
  · exact .store (size_direct d) fun v hv => by simp [hv]
  · exact .store (size_direct d) fun v hv => by simp [hv]
  · exact .store (duration_direct d) fun v hv => by simp [hv]
  · exact .store (duration_direct d) fun v hv => by simp [hv]
  · exact .pure (by simp_all)

/-- The names of the fields. -/
def fieldNames : List String :=
  (record (δ := Setting)).fields

/-- The leaves of the write benchmark. -/
def leaves : List (RecordPart WriteSettings) :=
  leafFields.map (·.part fieldNames) ++
    Http.Credentials.leaves.map (·.within fieldNames "basic_auth" (·.credentials))

theorem isReadBy_leaves {p : RecordPart WriteSettings} (hp : p ∈ leaves) :
    p.IsReadBy record.read {} :=
  record_has.isReadBy_of_mem (fun _ => rfl) (List.subset_cons_self _ _) List.mem_cons_self
    Http.Credentials.isReadBy_leaves hp

end WriteSettings

namespace QuerySettings

/-- The fields of the query benchmark that are leaves. -/
def leafFields : List (RecordField QuerySettings) :=
  [⟨"enabled", Bool, (·.enabled), flag⟩,
    ⟨"endpoint", String, (·.endpoint), text "a string"⟩,
    ⟨"path_prefix", String, (·.pathPrefix), text "a string"⟩,
    ⟨"tenant_id", Option String, (·.tenant), optional (text "a string")⟩,
    ⟨"workers", UInt64, (·.workers), size⟩,
    ⟨"timeout", Duration, (·.timeout), duration⟩]

/-- The field with the credentials. -/
def credentialsField : RecordField QuerySettings :=
  ⟨"basic_auth", Option Http.Credentials, (·.credentials), optional Http.Credentials.record.read⟩

theorem record_has : record.Has (credentialsField :: leafFields) := by
  refine ⟨by simp [credentialsField, leafFields, record, defaulted], fun s name d => ?_⟩
  show (readField s name d).Yields _
  simp only [credentialsField, leafFields, List.forall_mem_cons, RecordField.Follows]
  unfold readField
  split
  · exact .store (flag_direct d) fun v hv => by simp [hv]
  · exact .store (text_direct d _) fun v hv => by simp [hv]
  · exact .store (text_direct d _) fun v hv => by simp [hv]
  · exact .store (optional_direct d fun d => text_direct d _) fun v hv => by simp [hv]
  · exact .store (optional_direct d Http.Credentials.record_has.read_direct) fun v hv => by
      simp [hv]
  · exact .store (size_direct d) fun v hv => by simp [hv]
  · exact .store (duration_direct d) fun v hv => by simp [hv]
  · exact .pure (by simp_all)

/-- The names of the fields. -/
def fieldNames : List String :=
  (record (δ := Setting)).fields

/-- The leaves of the query benchmark. -/
def leaves : List (RecordPart QuerySettings) :=
  leafFields.map (·.part fieldNames) ++
    Http.Credentials.leaves.map (·.within fieldNames "basic_auth" (·.credentials))

theorem isReadBy_leaves {p : RecordPart QuerySettings} (hp : p ∈ leaves) :
    p.IsReadBy record.read {} :=
  record_has.isReadBy_of_mem (fun _ => rfl) (List.subset_cons_self _ _) List.mem_cons_self
    Http.Credentials.isReadBy_leaves hp

end QuerySettings

namespace RingCheckSettings

/-- The fields of the ring check, all of which are leaves. -/
def leafFields : List (RecordField RingCheckSettings) :=
  [⟨"enabled", Bool, (·.enabled), flag⟩,
    ⟨"interval", Duration, (·.interval), duration⟩,
    ⟨"tenant_id", String, (·.tenant), text "a string"⟩,
    ⟨"replication_factor", UInt64, (·.replicationFactor), size⟩,
    ⟨"num_tokens", UInt64, (·.tokenCount), size⟩,
    ⟨"instances", List Instance, (·.instances), Instance.readList⟩]

theorem instance_has : Record.Has (α := Instance) Instance.record [] := by
  refine ⟨by simp, fun draft name d => ?_⟩
  show (Instance.readField draft name d).Yields _
  unfold Instance.readField
  split
  · exact .store (text_direct d _) fun _ _ => by simp
  · exact .store (list_direct d word_direct) fun _ _ => by simp
  · exact .pure (by simp)

theorem record_has : record.Has leafFields := by
  refine ⟨by simp [leafFields, record, defaulted], fun s name d => ?_⟩
  show (readField s name d).Yields _
  simp only [leafFields, List.forall_mem_cons, RecordField.Follows]
  unfold readField
  split
  · exact .store (flag_direct d) fun v hv => by simp [hv]
  · exact .store (duration_direct d) fun v hv => by simp [hv]
  · exact .store (text_direct d _) fun v hv => by simp [hv]
  · exact .store (size_direct d) fun v hv => by simp [hv]
  · exact .store (size_direct d) fun v hv => by simp [hv]
  · exact .store (list_direct d instance_has.read_direct) fun v hv => by simp [hv]
  · exact .pure (by simp_all)

/-- The leaves of the ring check. -/
def leaves : List (RecordPart RingCheckSettings) :=
  leafFields.map (·.part (record (δ := Setting)).fields)

theorem isReadBy_leaves {p : RecordPart RingCheckSettings} (hp : p ∈ leaves) :
    p.IsReadBy record.read {} := by
  obtain ⟨f, hf, rfl⟩ := List.mem_map.1 hp
  exact record_has.isReadBy_part hf fun _ => rfl

end RingCheckSettings

namespace LoggingSettings

/-- The fields of logging, all of which are leaves. -/
def leafFields : List (RecordField LoggingSettings) :=
  [⟨"level", Logging.Level, (·.level), Logging.Level.read⟩,
    ⟨"format", Logging.Format, (·.format), Logging.Format.read⟩]

theorem level_direct (d : Setting) : (Logging.Level.read d).IsDirect := by
  refine (text_direct d _).bind fun name => ?_
  split
  · exact .pure _
  · exact .throw _

theorem format_direct (d : Setting) : (Logging.Format.read d).IsDirect :=
  (variant_direct d _ _).bind fun _ => .pure _

theorem record_has : record.Has leafFields := by
  refine ⟨by simp [leafFields, record, defaulted], fun s name d => ?_⟩
  show (readField s name d).Yields _
  simp only [leafFields, List.forall_mem_cons, RecordField.Follows]
  unfold readField
  split
  · exact .store (level_direct d) fun v hv => by simp [hv]
  · exact .store (format_direct d) fun v hv => by simp [hv]
  · exact .pure (by simp_all)

/-- The leaves of logging. -/
def leaves : List (RecordPart LoggingSettings) :=
  leafFields.map (·.part (record (δ := Setting)).fields)

theorem isReadBy_leaves {p : RecordPart LoggingSettings} (hp : p ∈ leaves) :
    p.IsReadBy record.read {} := by
  obtain ⟨f, hf, rfl⟩ := List.mem_map.1 hp
  exact record_has.isReadBy_part hf fun _ => rfl

end LoggingSettings

namespace TrackingSettings

/-- The fields of error tracking that are leaves. -/
def leafFields : List (RecordField TrackingSettings) :=
  [⟨"dsn", Option String, (·.destination), optional (text "a string")⟩,
    ⟨"environment", Option String, (·.environment), optional (text "a string")⟩,
    ⟨"server_name", Option String, (·.serverName), optional (text "a string")⟩,
    ⟨"sample_rate", UInt32, (·.sampleRate), single⟩,
    ⟨"traces_sample_rate", UInt32, (·.traceSampleRate), single⟩,
    ⟨"debug", Bool, (·.debug), flag⟩]

/-- The field with the tags. -/
def tagsField : RecordField TrackingSettings :=
  ⟨"tags", List (String × String), (·.tags), Document.map (text "a string")⟩

theorem record_has : record.Has (tagsField :: leafFields) := by
  refine ⟨by simp [tagsField, leafFields, record, defaulted], fun s name d => ?_⟩
  show (readField s name d).Yields _
  simp only [tagsField, leafFields, List.forall_mem_cons, RecordField.Follows]
  have optionalText := optional_direct d fun d => text_direct d "a string"
  unfold readField
  split
  · exact .store optionalText fun v hv => by simp [hv]
  · exact .store optionalText fun v hv => by simp [hv]
  · exact .store optionalText fun v hv => by simp [hv]
  · exact .store (single_direct d) fun v hv => by simp [hv]
  · exact .store (single_direct d) fun v hv => by simp [hv]
  · exact .store (flag_direct d) fun v hv => by simp [hv]
  · exact .store (map_direct d fun d => text_direct d _) fun v hv => by simp [hv]
  · exact .pure (by simp_all)

/-- The names of the fields. -/
def fieldNames : List String :=
  (record (δ := Setting)).fields

/-- The tag with a name. -/
def tag (name : String) : RecordPart TrackingSettings :=
  (entryPart (text "a string") name).within fieldNames "tags" (·.tags)

/-- The leaves of error tracking apart from the tags. -/
def leaves : List (RecordPart TrackingSettings) :=
  leafFields.map (·.part fieldNames)

theorem isReadBy_tag (name : String) : (tag name).IsReadBy record.read {} :=
  record_has.isReadBy_within List.mem_cons_self (fun _ => rfl)
    (isReadBy_entryPart (fun d => text_direct d _) name)

theorem isReadBy_leaves {p : RecordPart TrackingSettings} (hp : p ∈ leaves) :
    p.IsReadBy record.read {} := by
  obtain ⟨f, hf, rfl⟩ := List.mem_map.1 hp
  exact record_has.isReadBy_part (List.mem_cons_of_mem _ hf) fun _ => rfl

end TrackingSettings

namespace Settings

/-- The number of threads, the only field of its record. -/
def threadsField : RecordField UInt64 :=
  ⟨"worker_threads", UInt64, fun threads => threads, size⟩

theorem threads_has (standard : UInt64) : (threadsRecord standard).Has [threadsField] := by
  refine ⟨by simp [threadsField, threadsRecord, defaulted], fun threads name d => ?_⟩
  show (readThreads threads name d).Yields _
  simp only [threadsField, List.forall_mem_cons, RecordField.Follows]
  unfold readThreads
  split
  · exact ⟨size_direct d, fun hv => by simp [hv]⟩
  · exact .pure (by simp_all)

def idField : RecordField Settings :=
  ⟨"id", String, (·.id), text "a string"⟩

def addressField : RecordField Settings :=
  ⟨"http_addr", SocketAddress, (·.address), readAddress⟩

def workloadFileField : RecordField Settings :=
  ⟨"workload_file", String, (·.workloadFile), text "path string"⟩

def writeField : RecordField Settings :=
  ⟨"write", WriteSettings, (·.write), WriteSettings.record.read⟩

def queryField : RecordField Settings :=
  ⟨"query", QuerySettings, (·.query), QuerySettings.record.read⟩

def ringCheckField : RecordField Settings :=
  ⟨"ring_check", RingCheckSettings, (·.ringCheck), RingCheckSettings.record.read⟩

def runtimeField (machine : Machine) : RecordField Settings :=
  ⟨"runtime", UInt64, (·.threads), (threadsRecord (standard machine).threads).read⟩

def loggingField : RecordField Settings :=
  ⟨"logging", LoggingSettings, (·.logging), LoggingSettings.record.read⟩

def trackingField : RecordField Settings :=
  ⟨"sentry", TrackingSettings, (·.tracking), TrackingSettings.record.read⟩

/-- The fields of the settings. -/
def fields (machine : Machine) : List (RecordField Settings) :=
  [idField, addressField, workloadFileField, writeField, queryField, ringCheckField,
    runtimeField machine, loggingField, trackingField]

theorem address_direct (d : Setting) : (readAddress d).IsDirect := by
  refine (text_direct d _).bind fun content => ?_
  split
  · exact .pure _
  · exact .throw _

theorem record_has (machine : Machine) : (record machine).Has (fields machine) := by
  refine ⟨?_, fun s name d => ?_⟩
  · simp [fields, idField, addressField, workloadFileField, writeField, queryField, ringCheckField,
      runtimeField, loggingField, trackingField, record, defaulted]
  show (readField s name d).Yields _
  simp only [fields, idField, addressField, workloadFileField, writeField, queryField,
    ringCheckField, runtimeField, loggingField, trackingField, List.forall_mem_cons,
    RecordField.Follows]
  unfold readField
  split
  · exact .store (text_direct d _) fun v hv => by simp [hv]
  · exact .store (address_direct d) fun v hv => by simp [hv]
  · exact .store (text_direct d _) fun v hv => by simp [hv]
  · exact .store (WriteSettings.record_has.read_direct d) fun v hv => by simp [hv]
  · exact .store (QuerySettings.record_has.read_direct d) fun v hv => by simp [hv]
  · exact .store (RingCheckSettings.record_has.read_direct d) fun v hv => by simp [hv]
  · refine .store ((threads_has _).read_direct d) fun v hv => ?_
    -- The number of threads has not been read yet, so the draft has the standard one.
    simp +contextual [← hv, record, defaulted]
  · exact .store (LoggingSettings.record_has.read_direct d) fun v hv => by simp [hv]
  · exact .store (TrackingSettings.record_has.read_direct d) fun v hv => by simp [hv]
  · exact .pure (by simp_all)

/-- The names of the fields. -/
def fieldNames : List String :=
  (record (δ := Setting) ⟨none, 1⟩).fields

section

variable {machine : Machine} {f : RecordField Settings}

theorem isReadBy_field (hf : f ∈ fields machine) :
    (f.part fieldNames).IsReadBy (record machine).read (standard machine) :=
  (record_has machine).isReadBy_part hf fun _ => rfl

theorem isReadBy_within (hf : f ∈ fields machine) {p : RecordPart f.Value}
    (hp : p.IsReadBy f.read (f.get (standard machine))) :
    (p.within fieldNames f.name f.get).IsReadBy (record machine).read (standard machine) :=
  (record_has machine).isReadBy_within hf (fun _ => rfl) hp

end

/-- The number of threads, as a part of the record around it. -/
def threadsPart : RecordPart UInt64 :=
  threadsField.part (threadsRecord (δ := Setting) 1).fields

end Settings

/-! ## Leaves -/

/-- A leaf of the settings, and the option of the command line that overrides it, if any. -/
structure Leaf extends RecordPart Settings where
  option : CommandLine.Options → Option Value := fun _ => none

namespace Leaf

/-- The names on the way to a leaf. -/
def path (l : Leaf) : List String :=
  l.steps.map (·.2)

/-- A leaf of a section. -/
def inSection {α : Type} (name : String) (get : Settings → α) (p : RecordPart α) : Leaf :=
  { toRecordPart := p.within Settings.fieldNames name get }

/-- The identity. -/
def id : Leaf :=
  { toRecordPart := Settings.idField.part Settings.fieldNames
    option := (·.id) }

/-- The address of the metrics. -/
def address : Leaf :=
  { toRecordPart := Settings.addressField.part Settings.fieldNames }

/-- The workload file. -/
def workloadFile : Leaf :=
  { toRecordPart := Settings.workloadFileField.part Settings.fieldNames
    option := (·.workloadFile) }

/-- The number of threads. -/
def threads : Leaf :=
  inSection "runtime" (·.threads) Settings.threadsPart

/-- The time between two ring checks. -/
def ringCheckInterval : Leaf :=
  inSection "ring_check" (·.ringCheck)
    (RecordField.part ⟨"interval", Duration, (·.interval), duration⟩
      (RingCheckSettings.record (δ := Setting)).fields)

end Leaf

/-- The leaves of the settings. -/
inductive IsLeaf : Leaf → Prop
  | id : IsLeaf .id
  | address : IsLeaf .address
  | workloadFile : IsLeaf .workloadFile
  | write {p : RecordPart WriteSettings} (h : p ∈ WriteSettings.leaves) :
    IsLeaf (.inSection "write" (·.write) p)
  | query {p : RecordPart QuerySettings} (h : p ∈ QuerySettings.leaves) :
    IsLeaf (.inSection "query" (·.query) p)
  | ringCheck {p : RecordPart RingCheckSettings} (h : p ∈ RingCheckSettings.leaves) :
    IsLeaf (.inSection "ring_check" (·.ringCheck) p)
  | threads : IsLeaf .threads
  | logging {p : RecordPart LoggingSettings} (h : p ∈ LoggingSettings.leaves) :
    IsLeaf (.inSection "logging" (·.logging) p)
  | tracking {p : RecordPart TrackingSettings} (h : p ∈ TrackingSettings.leaves) :
    IsLeaf (.inSection "sentry" (·.tracking) p)
  | tag (name : String) : IsLeaf (.inSection "sentry" (·.tracking) (TrackingSettings.tag name))

namespace IsLeaf

variable {l m : Leaf}

theorem ringCheckInterval : IsLeaf .ringCheckInterval :=
  .ringCheck (List.mem_cons_of_mem _ List.mem_cons_self)

/-- Every leaf is read from the end of the steps that lead to it. -/
theorem isReadBy (h : IsLeaf l) (machine : Machine) :
    l.IsReadBy (Settings.record machine).read (.standard machine) := by
  cases h with
  | id => exact Settings.isReadBy_field (f := Settings.idField) (by simp [Settings.fields])
  | address =>
    exact Settings.isReadBy_field (f := Settings.addressField) (by simp [Settings.fields])
  | workloadFile =>
    exact Settings.isReadBy_field (f := Settings.workloadFileField) (by simp [Settings.fields])
  | write h =>
    exact Settings.isReadBy_within (f := Settings.writeField) (by simp [Settings.fields])
      (WriteSettings.isReadBy_leaves h)
  | query h =>
    exact Settings.isReadBy_within (f := Settings.queryField) (by simp [Settings.fields])
      (QuerySettings.isReadBy_leaves h)
  | ringCheck h =>
    exact Settings.isReadBy_within (f := Settings.ringCheckField) (by simp [Settings.fields])
      (RingCheckSettings.isReadBy_leaves h)
  | threads =>
    exact Settings.isReadBy_within (f := Settings.runtimeField machine) (by simp [Settings.fields])
      ((Settings.threads_has _).isReadBy_part List.mem_cons_self fun _ => rfl)
  | logging h =>
    exact Settings.isReadBy_within (f := Settings.loggingField) (by simp [Settings.fields])
      (LoggingSettings.isReadBy_leaves h)
  | tracking h =>
    exact Settings.isReadBy_within (f := Settings.trackingField) (by simp [Settings.fields])
      (TrackingSettings.isReadBy_leaves h)
  | tag name =>
    exact Settings.isReadBy_within (f := Settings.trackingField) (by simp [Settings.fields])
      (TrackingSettings.isReadBy_tag name)

/-! ### Paths -/

/-- The paths of what is not a leaf: the settings themselves, the sections, the credentials and the
map of the tags. -/
def groups : List (List String) :=
  [[], ["write"], ["write", "basic_auth"], ["query"], ["query", "basic_auth"], ["ring_check"],
    ["runtime"], ["logging"], ["sentry"], ["sentry", "tags"]]

/-- A path that ends at a leaf, and of which no part in front does. -/
def EndsAtLeaf (path : List String) : Prop :=
  path ∉ groups ∧ ∀ n < path.length, path.take n ∈ groups

instance (path : List String) : Decidable (EndsAtLeaf path) :=
  inferInstanceAs (Decidable (_ ∧ _))

theorem endsAtLeaf_path (h : IsLeaf l) : EndsAtLeaf l.path := by
  have hsection {α : Type} {name : String} {get : Settings → α} {parts : List (RecordPart α)}
      (hall : ∀ path ∈ parts.map fun p => p.steps.map (·.2), EndsAtLeaf (name :: path))
      {p : RecordPart α} (hp : p ∈ parts) : EndsAtLeaf (Leaf.inSection name get p).path :=
    hall _ (List.mem_map_of_mem hp)
  cases h with
  | id => decide
  | address => decide
  | workloadFile => decide
  | write h => exact hsection (by decide) h
  | query h => exact hsection (by decide) h
  | ringCheck h => exact hsection (by decide) h
  | threads => decide
  | logging h => exact hsection (by decide) h
  | tracking h => exact hsection (by decide) h
  | tag name =>
    show EndsAtLeaf ["sentry", "tags", name]
    refine ⟨by simp [groups], fun n hn => ?_⟩
    match n, hn with
    | 0, _ => simp [groups]
    | 1, _ => simp [groups]
    | 2, _ => simp [groups]

/-- No leaf is found within another one. -/
theorem apart (hl : IsLeaf l) (hm : IsLeaf m) : l.path = m.path ∨ Setting.Apart l.path m.path := by
  have hends {p q : List String} (hp : EndsAtLeaf p) (hq : EndsAtLeaf q) (h : p <+: q) :
      p = q := by
    by_contra hne
    have hlt : p.length < q.length :=
      lt_of_le_of_ne h.length_le fun heq => hne (h.eq_of_length heq)
    exact hp.1 (List.prefix_iff_eq_take.1 h ▸ hq.2 _ hlt)
  refine or_iff_not_imp_left.2 fun hne => ⟨fun h => ?_, fun h => ?_⟩
  · exact hne (hends hl.endsAtLeaf_path hm.endsAtLeaf_path h)
  · exact hne (hends hm.endsAtLeaf_path hl.endsAtLeaf_path h).symm

theorem steps_ne_nil (h : IsLeaf l) : l.steps ≠ [] := by
  intro hnil
  have hpath : l.path = [] := by rw [Leaf.path, hnil]; rfl
  exact h.endsAtLeaf_path.1 (hpath ▸ by decide)

end IsLeaf
end MetricLoad
