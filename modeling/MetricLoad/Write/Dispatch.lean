import MetricLoad.Balancer
import MetricLoad.Channel
import MetricLoad.Worker
import MetricLoad.Workload.Batches
import MetricLoad.Workload.Generator
import MetricLoad.Write.Client

/-!
# Dispatching write batches

A loop waits for ticks.  At each tick it generates the series of all replicas, splits them into
batches and sends these one after the other into a channel with one place for every worker.  Workers
take batches out of the channel, pick an address and push the batch there.  The counters of batches
and series grow when the loop sees that a batch has been accepted.

A cancellation ends the loop where it waits next; a batch that is parked at that moment and has not
been let into the channel is dropped.  The channel is then closed: workers finish when it is empty.

`Step` has one rule for everything that can happen next, so a run is any sequence of steps: the
loop, the workers, the refreshing of addresses and the cancellation interleave freely.
-/

namespace MetricLoad.Write

/-- Series that are pushed in one request. -/
abbrev Batch := List TimeSeries

/-- A write benchmark that is ready to run. -/
structure Benchmark where
  run : String
  workers : Nat
  generator : Generator
  balancer : Balancer
  options : Http.ClientOptions

/-- Where the loop stands. -/
inductive Loop
  /-- Waiting for a tick. -/
  | waiting
  /-- Sending the first of some batches, for which it may have parked. -/
  | sending (batch : Batch) (later : List Batch) (hasParked : Bool)
  | stopped

/-- The state of a running write benchmark. -/
structure Dispatch where
  run : String
  generator : Generator
  loop : Loop
  channel : Channel Batch
  workers : List (Worker Batch)
  balancer : Balancer
  options : Http.ClientOptions
  metrics : Metrics
  cancelled : Bool
  /-- The times of all ticks so far, in order. -/
  ticks : List Instant
  /-- The batches of all ticks so far, in order. -/
  generated : List Batch
  /-- The batches that workers have taken, with the workers, in order. -/
  taken : List (Nat × Batch)
  /-- The batches that were pushed, with the workers, in order. -/
  stored : List (Nat × Batch)

/-- The loop has one number as a sender. -/
def loopSender : Nat := 0

/-- The loop with some batches to send. -/
def Loop.ofBatches : List Batch → Loop
  | [] => .waiting
  | batch :: later => .sending batch later false

namespace Dispatch

/-- The start of a benchmark. -/
def start (b : Benchmark) (m : Metrics) : Dispatch :=
  ⟨b.run, b.generator, .waiting, .empty b.workers, List.replicate b.workers .idle, b.balancer,
    b.options, m, false, [], [], [], []⟩

/-- A tick: the batches of the present time are to be sent. -/
def tick (d : Dispatch) (now : Instant) : Dispatch :=
  let (series, generator) := d.generator.tick d.run now
  let batches := splitBatches d.generator.options.batchSize.toNat series
  { d with
    generator := generator
    loop := .ofBatches batches
    ticks := d.ticks ++ [now]
    generated := d.generated ++ batches }

/-- Counts an accepted batch and turns to the next. -/
def count (d : Dispatch) (batch : Batch) (later : List Batch) : Dispatch :=
  { d with
    loop := .ofBatches later
    metrics := (d.metrics.addBatches 1).addSeries batch.length.toUInt64 }

/-- Sends a batch into a channel with room. -/
def send (d : Dispatch) (batch : Batch) (later : List Batch) : Dispatch :=
  { d with channel := d.channel.push batch }.count batch later

/-- Parks with a batch. -/
def park (d : Dispatch) (batch : Batch) (later : List Batch) : Dispatch :=
  { d with
    channel := d.channel.park loopSender batch
    loop := .sending batch later true }

/-- Stops the loop; a parked batch is taken back. -/
def stop (d : Dispatch) : Dispatch :=
  { d with channel := d.channel.withdraw loopSender, loop := .stopped }

/-- Takes a batch out of the channel for a worker. -/
def take (d : Dispatch) (worker : Nat) (batch : Batch) (channel : Channel Batch) : Dispatch :=
  { d with
    channel := channel
    workers := d.workers.set worker (.holding batch)
    taken := d.taken ++ [(worker, batch)] }

/-- Lets a worker push its batch to the address at a position.  Without an address the batch is
dropped. -/
def push (d : Dispatch) (worker : Nat) (batch : Batch) (position : Nat) (peer : Http.Peer)
    (elapsed : Float) : Dispatch :=
  let workers := d.workers.set worker .idle
  match d.balancer.pickAt position with
  | (none, balancer) => { d with workers := workers, balancer := balancer }
  | (some (address, _), balancer) =>
    { d with
      workers := workers
      balancer := balancer
      metrics := (PushClient.store ⟨address, d.options⟩ peer elapsed batch d.metrics).2
      stored := d.stored ++ [(worker, batch)] }

/-- Whether the run has come back: the loop and all workers have ended. -/
def hasReturned (d : Dispatch) : Prop :=
  d.loop = .stopped ∧ ∀ w ∈ d.workers, w = .finished

end Dispatch

/-- What can happen next. -/
inductive Step : Dispatch → Dispatch → Prop
  | cancel (d : Dispatch) : Step d { d with cancelled := true }
  | refresh (d : Dispatch) (r : Resolution) : Step d { d with balancer := (d.balancer.resolve r).2 }
  | tick (d : Dispatch) (now : Instant) (waits : d.loop = .waiting) : Step d (d.tick now)
  | send (d : Dispatch) (batch : Batch) (later : List Batch)
      (sends : d.loop = .sending batch later false) (room : d.channel.hasRoom) :
      Step d (d.send batch later)
  | park (d : Dispatch) (batch : Batch) (later : List Batch)
      (sends : d.loop = .sending batch later false) (full : ¬ d.channel.hasRoom) :
      Step d (d.park batch later)
  /-- The loop sees that its parked batch has been let in. -/
  | resume (d : Dispatch) (batch : Batch) (later : List Batch)
      (sends : d.loop = .sending batch later true) (letIn : ¬ d.channel.isParked loopSender) :
      Step d (d.count batch later)
  | stop (d : Dispatch) (cancelled : d.cancelled = true) (runs : d.loop ≠ .stopped) : Step d d.stop
  | take (d : Dispatch) (worker : Nat) (batch : Batch) (channel : Channel Batch)
      (idle : d.workers[worker]? = some .idle)
      (first : d.channel.receive? = some (batch, channel)) :
      Step d (d.take worker batch channel)
  | push (d : Dispatch) (worker : Nat) (batch : Batch) (position : Nat) (peer : Http.Peer)
      (elapsed : Float) (holds : d.workers[worker]? = some (.holding batch))
      (inRange : position < d.balancer.addresses.length ∨ d.balancer.addresses = []) :
      Step d (d.push worker batch position peer elapsed)
  | finish (d : Dispatch) (worker : Nat) (idle : d.workers[worker]? = some .idle)
      (closed : d.loop = .stopped) (isEmpty : d.channel.queue = []) :
      Step d { d with workers := d.workers.set worker .finished }

/-- The states that a benchmark can come to. -/
inductive Reachable (b : Benchmark) (m : Metrics) : Dispatch → Prop
  | start : Reachable b m (.start b m)
  | next {d e : Dispatch} (reached : Reachable b m d) (step : Step d e) : Reachable b m e

end MetricLoad.Write
