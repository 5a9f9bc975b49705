import MetricLoad.Balancer
import MetricLoad.Channel
import MetricLoad.Query.Client
import MetricLoad.Worker

/-!
# Dispatching queries

Every query has a ticker of its own.  At each tick the ticker sends the query into a channel with
one place for every worker; it waits for the next tick when the query has been accepted.  Workers
take queries out of the channel, pick an address and execute the query there, which records its
latency.

A cancellation ends every ticker where it waits next.  When all tickers have ended the channel is
closed, and workers finish when it is empty.

`Step` has one rule for everything that can happen next, so a run is any sequence of steps.
-/

namespace MetricLoad.Query

/-- A query benchmark that is ready to run. -/
structure Benchmark where
  queries : List Query
  workers : Nat
  pathStem : String
  options : Http.ClientOptions
  balancer : Balancer

/-- Where a ticker stands. -/
inductive TickerState
  | waiting
  | sending
  | parked
  | stopped
  deriving DecidableEq, Repr

/-- The ticker of a query. -/
structure Ticker where
  query : Query
  state : TickerState
  /-- How often it has fired. -/
  fired : Nat
  deriving DecidableEq, Repr

/-- What a channel of queries holds: the number of a ticker and its query. -/
abbrev Job := Nat × Query

/-- An execution of a query, with the type and the outcome that it was recorded under. -/
structure Execution where
  worker : Nat
  job : Job
  outcome : String
  deriving DecidableEq, Repr

/-- The state of a running query benchmark. -/
structure Dispatch where
  tickers : List Ticker
  channel : Channel Job
  workers : List (Worker Job)
  balancer : Balancer
  pathStem : String
  options : Http.ClientOptions
  metrics : Metrics
  cancelled : Bool
  /-- The jobs that workers have taken, with the workers, in order. -/
  taken : List (Nat × Job)
  /-- The executions in order. -/
  executed : List Execution

namespace Dispatch

/-- The start of a benchmark. -/
def start (b : Benchmark) (m : Metrics) : Dispatch :=
  ⟨b.queries.map fun q => ⟨q, .waiting, 0⟩, .empty b.workers, List.replicate b.workers .idle,
    b.balancer, b.pathStem, b.options, m, false, [], []⟩

/-- The dispatch with a ticker in another state. -/
def turn (d : Dispatch) (number : Nat) (t : Ticker) (state : TickerState) : Dispatch :=
  { d with tickers := d.tickers.set number { t with state := state } }

/-- A tick of a query. -/
def tick (d : Dispatch) (number : Nat) (t : Ticker) : Dispatch :=
  d.turn number { t with fired := t.fired + 1 } .sending

/-- Sends a query into a channel with room. -/
def send (d : Dispatch) (number : Nat) (t : Ticker) : Dispatch :=
  { d with channel := d.channel.push (number, t.query) }.turn number t .waiting

/-- Parks with a query. -/
def park (d : Dispatch) (number : Nat) (t : Ticker) : Dispatch :=
  { d with channel := d.channel.park number (number, t.query) }.turn number t .parked

/-- Stops a ticker; a parked query is taken back. -/
def stop (d : Dispatch) (number : Nat) (t : Ticker) : Dispatch :=
  { d with channel := d.channel.withdraw number }.turn number t .stopped

/-- Takes a query out of the channel for a worker. -/
def take (d : Dispatch) (worker : Nat) (job : Job) (channel : Channel Job) : Dispatch :=
  { d with
    channel := channel
    workers := d.workers.set worker (.holding job)
    taken := d.taken ++ [(worker, job)] }

/-- Lets a worker execute its query at the address at a position.  Without an address the query is
dropped. -/
def execute (d : Dispatch) (worker : Nat) (job : Job) (position : Nat) (peer : Http.Peer)
    (now : Instant) (elapsed : Float) : Dispatch :=
  let workers := d.workers.set worker .idle
  match d.balancer.pickAt position with
  | (none, balancer) => { d with workers := workers, balancer := balancer }
  | (some (address, _), balancer) =>
    let client : QueryClient := ⟨address, d.pathStem, d.options⟩
    let (result, metrics) := job.2.execute client peer now elapsed d.metrics
    { d with
      workers := workers
      balancer := balancer
      metrics := metrics
      executed := d.executed ++ [⟨worker, job, outcome result⟩] }

/-- Whether all tickers have ended. -/
def isClosed (d : Dispatch) : Prop :=
  ∀ t ∈ d.tickers, t.state = .stopped

/-- Whether the run has come back: all tickers and all workers have ended. -/
def hasReturned (d : Dispatch) : Prop :=
  d.isClosed ∧ ∀ w ∈ d.workers, w = .finished

end Dispatch

/-- What can happen next. -/
inductive Step : Dispatch → Dispatch → Prop
  | cancel (d : Dispatch) : Step d { d with cancelled := true }
  | refresh (d : Dispatch) (r : Resolution) : Step d { d with balancer := (d.balancer.resolve r).2 }
  | tick (d : Dispatch) (number : Nat) (t : Ticker) (present : d.tickers[number]? = some t)
      (waits : t.state = .waiting) : Step d (d.tick number t)
  | send (d : Dispatch) (number : Nat) (t : Ticker) (present : d.tickers[number]? = some t)
      (sends : t.state = .sending) (room : d.channel.hasRoom) : Step d (d.send number t)
  | park (d : Dispatch) (number : Nat) (t : Ticker) (present : d.tickers[number]? = some t)
      (sends : t.state = .sending) (full : ¬ d.channel.hasRoom) : Step d (d.park number t)
  /-- A ticker sees that its parked query has been let in. -/
  | resume (d : Dispatch) (number : Nat) (t : Ticker) (present : d.tickers[number]? = some t)
      (parks : t.state = .parked) (letIn : ¬ d.channel.isParked number) :
      Step d (d.turn number t .waiting)
  | stop (d : Dispatch) (number : Nat) (t : Ticker) (present : d.tickers[number]? = some t)
      (cancelled : d.cancelled = true) (runs : t.state ≠ .stopped) : Step d (d.stop number t)
  | take (d : Dispatch) (worker : Nat) (job : Job) (channel : Channel Job)
      (idle : d.workers[worker]? = some .idle) (first : d.channel.receive? = some (job, channel)) :
      Step d (d.take worker job channel)
  | execute (d : Dispatch) (worker : Nat) (job : Job) (position : Nat) (peer : Http.Peer)
      (now : Instant) (elapsed : Float) (holds : d.workers[worker]? = some (.holding job))
      (inRange : position < d.balancer.addresses.length ∨ d.balancer.addresses = []) :
      Step d (d.execute worker job position peer now elapsed)
  | finish (d : Dispatch) (worker : Nat) (idle : d.workers[worker]? = some .idle)
      (closed : d.isClosed) (isEmpty : d.channel.queue = []) :
      Step d { d with workers := d.workers.set worker .finished }

/-- The states that a benchmark can come to. -/
inductive Reachable (b : Benchmark) (m : Metrics) : Dispatch → Prop
  | start : Reachable b m (.start b m)
  | next {d e : Dispatch} (reached : Reachable b m d) (step : Step d e) : Reachable b m e

end MetricLoad.Query
