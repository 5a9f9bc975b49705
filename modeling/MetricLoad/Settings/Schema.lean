import MetricLoad.Document
import MetricLoad.Ring.Reading
import MetricLoad.Settings

/-!
# The schema of settings

The fields of every section have their names in documents here, in order of declaration.  A field
that is left out keeps its standard value; only credentials need both of theirs.
-/

namespace MetricLoad

open Document

variable {δ : Type} [Document δ]

/-- Reads a number as a single, which is given by its bits. -/
def Document.single (d : δ) : Read UInt32 := do
  let d ← enter d
  match found d, integer? d with
  | .unsigned n, some _ => return n.toUInt64.toFloat32.toBits
  | .signed n, some _ =>
    let magnitude := n.natAbs.toUInt64.toFloat32
    return (if n < 0 then -magnitude else magnitude).toBits
  | .real bits, _ => return (Float.ofBits bits).toFloat32.toBits
  | _, _ => throw (wrongType "f32" d)

/-- A record whose fields may all be left out. -/
def Document.defaulted {α : Type} (title : String) (fields : List String) (standard : α)
    (step : α → String → δ → Read α) : Record δ α α :=
  ⟨title, fields, standard, step, .ok⟩

namespace Http.Credentials

/-- The fields read so far. -/
structure Draft where
  username : Option String := none
  password : Option String := none

/-- Reads a field. -/
def readField (draft : Draft) (field : String) (d : δ) : Read Draft := do
  match field with
  | "username" => return { draft with username := some (← text "a string" d) }
  | "password" => return { draft with password := some (← text "a string" d) }
  | _ => return draft

/-- The credentials of a draft; both fields are required. -/
def ofDraft (draft : Draft) : Except FaultKind Credentials := do
  return ⟨← required "username" draft.username, ← required "password" draft.password⟩

/-- The schema of credentials. -/
def record : Record δ Draft Credentials :=
  ⟨"Credentials", ["username", "password"], {}, readField, ofDraft⟩

end Http.Credentials

/-- Reads a field of the write benchmark. -/
def WriteSettings.readField (s : WriteSettings) (field : String) (d : δ) :
    Read WriteSettings := do
  match field with
  | "enabled" => return { s with enabled := ← flag d }
  | "endpoint" => return { s with endpoint := ← text "a string" d }
  | "tenant_id" => return { s with tenant := ← optional (text "a string") d }
  | "basic_auth" => return { s with credentials := ← optional Http.Credentials.record.read d }
  | "workers" => return { s with workers := ← size d }
  | "batch_size" => return { s with options := { s.options with batchSize := ← size d } }
  | "send_interval" => return { s with options := { s.options with interval := ← duration d } }
  | "timeout" => return { s with options := { s.options with timeout := ← duration d } }
  | _ => return s

/-- The schema of the write benchmark. -/
def WriteSettings.record : Record δ WriteSettings WriteSettings :=
  defaulted "Write" ["enabled", "endpoint", "tenant_id", "basic_auth", "workers", "batch_size",
    "send_interval", "timeout"] {} readField

/-- Reads a field of the query benchmark. -/
def QuerySettings.readField (s : QuerySettings) (field : String) (d : δ) :
    Read QuerySettings := do
  match field with
  | "enabled" => return { s with enabled := ← flag d }
  | "endpoint" => return { s with endpoint := ← text "a string" d }
  | "path_prefix" => return { s with pathPrefix := ← text "a string" d }
  | "tenant_id" => return { s with tenant := ← optional (text "a string") d }
  | "basic_auth" => return { s with credentials := ← optional Http.Credentials.record.read d }
  | "workers" => return { s with workers := ← size d }
  | "timeout" => return { s with timeout := ← duration d }
  | _ => return s

/-- The schema of the query benchmark. -/
def QuerySettings.record : Record δ QuerySettings QuerySettings :=
  defaulted "Query" ["enabled", "endpoint", "path_prefix", "tenant_id", "basic_auth", "workers",
    "timeout"] {} readField

/-- Reads a field of the ring check. -/
def RingCheckSettings.readField (s : RingCheckSettings) (field : String) (d : δ) :
    Read RingCheckSettings := do
  match field with
  | "enabled" => return { s with enabled := ← flag d }
  | "interval" => return { s with interval := ← duration d }
  | "tenant_id" => return { s with tenant := ← text "a string" d }
  | "replication_factor" => return { s with replicationFactor := ← size d }
  | "num_tokens" => return { s with tokenCount := ← size d }
  | "instances" => return { s with instances := ← Instance.readList d }
  | _ => return s

/-- The schema of the ring check. -/
def RingCheckSettings.record : Record δ RingCheckSettings RingCheckSettings :=
  defaulted "RingCheck" ["enabled", "interval", "tenant_id", "replication_factor", "num_tokens",
    "instances"] {} readField

/-- Reads a field of the machine's threads. -/
def Settings.readThreads (threads : UInt64) (field : String) (d : δ) : Read UInt64 :=
  match field with
  | "worker_threads" => size d
  | _ => pure threads

/-- The schema of the machine's threads, with a standard number of them. -/
def Settings.threadsRecord (standard : UInt64) : Record δ UInt64 UInt64 :=
  defaulted "Runtime" ["worker_threads"] standard readThreads

/-- Reads a log level. -/
def Logging.Level.read (d : δ) : Read Level := do
  let name ← text "a string" d
  match Level.ofText? name with
  | some level => return level
  | none => throw (faultAt d (.refused Level.unreadable))

/-- Reads a form of log records. -/
def Logging.Format.read (d : δ) : Read Format := do
  let name ← variant "enum LogFormat" (Format.all.map (·.name)) d
  return (Format.ofName? name).getD default

/-- Reads a field of logging. -/
def LoggingSettings.readField (s : LoggingSettings) (field : String) (d : δ) :
    Read LoggingSettings := do
  match field with
  | "level" => return { s with level := ← Logging.Level.read d }
  | "format" => return { s with format := ← Logging.Format.read d }
  | _ => return s

/-- The schema of logging. -/
def LoggingSettings.record : Record δ LoggingSettings LoggingSettings :=
  defaulted "Logging" ["level", "format"] {} readField

/-- Reads a field of error tracking. -/
def TrackingSettings.readField (s : TrackingSettings) (field : String) (d : δ) :
    Read TrackingSettings := do
  match field with
  | "dsn" => return { s with destination := ← optional (text "a string") d }
  | "environment" => return { s with environment := ← optional (text "a string") d }
  | "server_name" => return { s with serverName := ← optional (text "a string") d }
  | "sample_rate" => return { s with sampleRate := ← single d }
  | "traces_sample_rate" => return { s with traceSampleRate := ← single d }
  | "debug" => return { s with debug := ← flag d }
  | "tags" => return { s with tags := ← Document.map (text "a string") d }
  | _ => return s

/-- The schema of error tracking. -/
def TrackingSettings.record : Record δ TrackingSettings TrackingSettings :=
  defaulted "Sentry" ["dsn", "environment", "server_name", "sample_rate", "traces_sample_rate",
    "debug", "tags"] {} readField

namespace Settings

/-- Reads a socket address. -/
def readAddress (d : δ) : Read SocketAddress := do
  let content ← text "socket address" d
  match SocketAddress.ofText? content.toList with
  | some address => return address
  | none => throw (faultAt d (.refused "invalid socket address syntax"))

/-- Reads a field. -/
def readField (s : Settings) (field : String) (d : δ) : Read Settings := do
  match field with
  | "id" => return { s with id := ← text "a string" d }
  | "http_addr" => return { s with address := ← readAddress d }
  | "workload_file" => return { s with workloadFile := ← text "path string" d }
  | "write" => return { s with write := ← WriteSettings.record.read d }
  | "query" => return { s with query := ← QuerySettings.record.read d }
  | "ring_check" => return { s with ringCheck := ← RingCheckSettings.record.read d }
  | "runtime" => return { s with threads := ← (threadsRecord s.threads).read d }
  | "logging" => return { s with logging := ← LoggingSettings.record.read d }
  | "sentry" => return { s with tracking := ← TrackingSettings.record.read d }
  | _ => return s

/-- The schema of settings on a machine. -/
def record (machine : Machine) : Record δ Settings Settings :=
  defaulted "Config" ["id", "http_addr", "workload_file", "write", "query", "ring_check", "runtime",
    "logging", "sentry"] (standard machine) readField

end Settings
end MetricLoad
