import MetricLoad.Query.Dispatch
import MetricLoad.Ring.Reporter
import MetricLoad.Settings
import MetricLoad.Write.Dispatch

/-!
# Setting up benchmarks

The settings say which benchmarks are to run: writing, querying, the ring check.  Everything that
may be wrong is found here, before anything is sent.  The write options of the workload are looked
at first, whichever benchmarks run; then the ring, the queries and their endpoint, and the
endpoint of the writes.  Every endpoint is resolved once, and a run with nothing to do is refused.
-/

namespace MetricLoad

/-- Why a benchmark that sends to an endpoint cannot be set up. -/
inductive EndpointError
  | noWorkers
  | unresolved (cause : BalancerError)
  deriving DecidableEq, Repr

namespace EndpointError

/-- The wording of an error. -/
def message : EndpointError → String
  | noWorkers => "at least one worker is required"
  | unresolved cause => "unable to resolve endpoints: " ++ cause.message

/-- The texts of an error and of the errors that caused it, outermost first. -/
def chain : EndpointError → List String
  | noWorkers => [message noWorkers]
  | unresolved cause => [message (unresolved cause), cause.message]

end EndpointError

/-- Why a run cannot be set up. -/
inductive SetupError
  | workload (cause : WorkloadError)
  | ring (cause : RingError)
  | query (cause : EndpointError)
  | write (cause : EndpointError)
  | nothingEnabled
  deriving DecidableEq, Repr

/-- The texts of an error and of the errors that caused it, outermost first. -/
def SetupError.chain : SetupError → List String
  | workload cause => cause.chain
  | ring cause => ["failed to build ring", cause.message]
  | query cause => "failed to set up query benchmark" :: cause.chain
  | write cause => "failed to set up write benchmark" :: cause.chain
  | nothingEnabled => ["no benchmark enabled"]

/-- The benchmarks of a run. -/
structure Benchmarks where
  write : Option Write.Benchmark
  query : Option Query.Benchmark
  ringCheck : Option Ring.Reporter

namespace Setup

/-- A way to find the addresses of endpoints, which may remember what it has been asked. -/
abbrev Discovery (σ : Type) := String → σ → Resolution × σ

/-- Finding addresses with a name service. -/
def nameDiscovery (names : NameService) : Discovery PUnit := fun endpoint s =>
  match names.resolve endpoint with
  | .ok addresses => (.found addresses, s)
  | .error cause => (.failed cause, s)

/-- What is known before an endpoint is resolved. -/
structure Plan where
  generator : Generator
  ringCheck : Option Ring.Reporter
  /-- The queries, if queries are to run. -/
  queries : Option (List Query)

/-- The ring check of a run, if it is to run. -/
def ringCheck (s : Settings) (g : Generator) : Except SetupError (Option Ring.Reporter) :=
  let r := s.ringCheck
  if r.enabled then
    match Ring.build r.instances r.replicationFactor.toNat r.tokenCount.toNat with
    | .error cause => .error (.ring cause)
    | .ok ring => .ok (some (.start ⟨ring, g, s.id, r.tenant⟩ r.interval))
  else .ok none

/-- The queries of a run, if queries are to run. -/
def queries (s : Settings) (w : Workload) : Except SetupError (Option (List Query)) :=
  if s.query.enabled then
    match Query.derive s.id w with
    | .error cause => .error (.workload cause)
    | .ok queries => .ok (some queries)
  else .ok none

/-- The generator of a run, with the seed of its values. -/
def generator (s : Settings) (w : Workload) (seed : UInt64) : Except SetupError Generator :=
  match w.write.resolve s.write.options with
  | .error cause => .error (.workload cause)
  | .ok options => .ok (.ofWorkload w options seed)

section Endpoints

variable {σ : Type} (discover : Discovery σ)

/-- A balancer over the addresses of an endpoint, for a number of workers; the gauge of the endpoint
is published. -/
def balance (endpoint : String) (workers : UInt64) (m : Metrics) (state : σ) :
    Except EndpointError Balancer × Metrics × σ :=
  if workers = 0 then (.error .noWorkers, m, state)
  else
    let m := m.declareResolved endpoint
    let (resolution, state) := discover endpoint state
    match Balancer.create endpoint resolution with
    | .error cause => (.error (.unresolved cause), m, state)
    | .ok balancer => (.ok balancer, m.setResolved endpoint (Int64.ofNat balancer.gauge), state)

/-- What is made of the balancer over the addresses of an endpoint. -/
def overEndpoint {β : Type} (endpoint : String) (workers : UInt64)
    (refuse : EndpointError → SetupError) (make : Balancer → β) (m : Metrics) (state : σ) :
    Except SetupError β × Metrics × σ :=
  let (result, m, state) := balance discover endpoint workers m state
  ((result.mapError refuse).map make, m, state)

/-- The query benchmark of some queries. -/
def query (s : QuerySettings) (queries : List Query) (m : Metrics) (state : σ) :
    Except SetupError Query.Benchmark × Metrics × σ :=
  overEndpoint discover s.endpoint s.workers .query (fun balancer =>
    ⟨queries, s.workers.toNat, s.pathPrefix, ⟨s.timeout, s.credentials, s.tenant⟩, balancer⟩)
    m state

/-- The write benchmark of a generator. -/
def write (s : WriteSettings) (run : String) (g : Generator) (m : Metrics) (state : σ) :
    Except SetupError Write.Benchmark × Metrics × σ :=
  overEndpoint discover s.endpoint s.workers .write (fun balancer =>
    ⟨run, s.workers.toNat, g, balancer, ⟨g.options.timeout, s.credentials, s.tenant⟩⟩)
    m state

/-- The query benchmark, if there are queries to run. -/
def optionalQuery (s : QuerySettings) (queries : Option (List Query)) (m : Metrics) (state : σ) :
    Except SetupError (Option Query.Benchmark) × Metrics × σ :=
  match queries with
  | none => (.ok none, m, state)
  | some queries =>
    let (benchmark, m, state) := query discover s queries m state
    (benchmark.map some, m, state)

/-- The write benchmark, if it is to run. -/
def optionalWrite (s : WriteSettings) (run : String) (g : Generator) (m : Metrics) (state : σ) :
    Except SetupError (Option Write.Benchmark) × Metrics × σ :=
  if s.enabled then
    let (benchmark, m, state) := write discover s run g m state
    (benchmark.map some, m, state)
  else (.ok none, m, state)

end Endpoints

/-- What is known of a run before an endpoint is resolved. -/
def plan (s : Settings) (w : Workload) (seed : UInt64) : Except SetupError Plan := do
  let g ← generator s w seed
  let ringCheck ← ringCheck s g
  let queries ← queries s w
  return ⟨g, ringCheck, queries⟩

/-- At least one benchmark. -/
def nonempty (b : Benchmarks) : Except SetupError Benchmarks :=
  if b.write.isNone && b.query.isNone && b.ringCheck.isNone then .error .nothingEnabled else .ok b

end Setup

open Setup in
/-- Sets up the benchmarks of a run: the benchmarks or the first error, the metrics, and the state
of discovery. -/
def Benchmarks.setUp {σ : Type} (discover : Discovery σ) (s : Settings) (w : Workload)
    (seed : UInt64) (m : Metrics) (state : σ) : Except SetupError Benchmarks × Metrics × σ :=
  match plan s w seed with
  | .error cause => (.error cause, m, state)
  | .ok plan =>
    match optionalQuery discover s.query plan.queries m state with
    | (.error cause, m, state) => (.error cause, m, state)
    | (.ok query, m, state) =>
      match optionalWrite discover s.write s.id plan.generator m state with
      | (.error cause, m, state) => (.error cause, m, state)
      | (.ok write, m, state) => (nonempty ⟨write, query, plan.ringCheck⟩, m, state)

end MetricLoad
