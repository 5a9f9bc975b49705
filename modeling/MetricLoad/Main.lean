import MetricLoad.Balancer.Refresh
import MetricLoad.Http.Message
import MetricLoad.Json.Writer
import MetricLoad.Launch
import MetricLoad.Logging.Filter
import MetricLoad.Metrics.Server
import Std.Async.DNS
import Std.Async.Signal
import Std.Async.TCP
import Std.Async.Timer
import Std.Sync.Channel
import Std.Time.DateTime.Timestamp

/-!
# The program

This layer only carries: it asks the machine for variables, files, names and time, hands requests to
the network, and lets the parts of a run go on side by side until a signal ends it.  What is asked,
sent, counted and printed is decided elsewhere.
-/

namespace MetricLoad.Program

open Std.Async

/-! ## Files, variables and names -/

/-- The wordings of the errors of the machine, by their numbers. -/
def machineTexts : List (Nat × String) :=
  [(2, "No such file or directory"), (13, "Permission denied"), (20, "Not a directory"),
    (21, "Is a directory"), (36, "File name too long"), (98, "Address already in use"),
    (99, "Cannot assign requested address")]

/-- The number of an error of the machine. -/
def machineCode? : IO.Error → Option UInt32
  | .noFileOrDirectory _ code _ => some code
  | .permissionDenied _ code _ => some code
  | .inappropriateType _ code _ => some code
  | .invalidArgument _ code _ => some code
  | .resourceBusy code _ => some code
  | .unsupportedOperation code _ => some code
  | _ => none

/-- The wording of an error of the machine. -/
def machineText (e : IO.Error) : String :=
  let number := (machineCode? e).map fun code => code.toInt32.toInt.natAbs
  match number, number.bind fun n => machineTexts.lookup n with
  | some n, some text => text ++ " (os error " ++ toString n ++ ")"
  | _, _ => toString e

/-- The text of a file. -/
def readFile (path : String) : IO (Except String String) := do
  try
    match Text.decode? (← IO.FS.readBinFile path).toList with
    | some text => return .ok text
    | none => return .error "stream did not contain valid UTF-8"
  catch e => return .error (machineText e)

/-- The parts of some bytes between zeros. -/
def zeroSeparated (bytes : List UInt8) : List (List UInt8) :=
  bytes.foldr
    (fun b parts =>
      if b == 0 then [] :: parts
      else match parts with
        | [] => [[b]]
        | part :: rest => (b :: part) :: rest)
    []

/-- The name and the value of a variable of the environment. -/
def binding? (entry : List UInt8) : Option (String × String) :=
  let chars := Text.decodeLossyChars entry
  match chars.dropWhile (· != '=') with
  | [] => none
  | _ :: value => some (String.ofList (chars.takeWhile (· != '=')), String.ofList value)

/-- The variables of the environment. -/
def environment : IO (List (String × String)) := do
  let bytes ← IO.FS.readBinFile "/proc/self/environ"
  return (zeroSeparated bytes.toList).filterMap binding?

/-- The number of processors. -/
def processors : IO UInt64 := do
  match ← readFile "/proc/cpuinfo" with
  | .error _ => return 1
  | .ok text =>
    let count := ((text.splitOn "\n").filter fun line => "processor".isPrefixOf line).length
    return (max count 1).toUInt64

/-- A host address of the network. -/
def hostAddress : Std.Net.IPAddr → HostAddress
  | .v4 a => .octets a.octets[0] a.octets[1] a.octets[2] a.octets[3]
  | .v6 a => .groups a.segments

/-- A host address for the network. -/
def networkAddress (host : HostAddress) (port : UInt16) : Std.Net.SocketAddress :=
  match host with
  | .octets a b c d => .v4 ⟨⟨#v[a, b, c, d]⟩, port⟩
  | .groups gs => .v6 ⟨⟨gs⟩, port⟩

/-- The addresses of a host. -/
def lookUp (host : String) : IO (Except String (List HostAddress)) := do
  try
    let found ← (DNS.getAddrInfo host "").block
    return .ok (found.toList.map hostAddress)
  catch e => return .error (machineText e)

/-- Resolves an endpoint. -/
def resolve (endpoint : String) : IO Resolution := do
  let hosts ← match Target.parse endpoint with
    | .ok (.host name _) => lookUp name
    | _ => pure (.error "no host")
  let names : NameService := ⟨fun _ => hosts, fun _ => .error "no service records"⟩
  return (Setup.nameDiscovery names endpoint ⟨⟩).1

/-! ## The network -/

/-- Opens an address and keeps the listener. -/
def openAddress (listener : IO.Ref (Option TCP.Socket.Server)) (address : SocketAddress) :
    IO (Option String) := do
  try
    let server ← TCP.Socket.Server.mk
    server.bind (networkAddress address.host address.port)
    server.listen 1024
    listener.set (some server)
    return none
  catch e => return some (machineText e)

/-- Everything that a peer sends until it closes the connection. -/
partial def receiveAll (client : TCP.Socket.Client) (received : List UInt8) :
    Async (List UInt8) := do
  match ← client.recv? 65536 with
  | none => return received
  | some part => receiveAll client (received ++ part.toList)

/-- Sends a request to a network address and waits for the reply. -/
def exchange (address : Std.Net.SocketAddress) (r : Http.Request) : Async Http.Reply := do
  let client ← TCP.Socket.Client.mk
  client.connect address
  client.send r.message.toByteArray
  return Http.Reply.ofMessage (← receiveAll client [])

/-- The network address of a host and a port in a text. -/
def locate (address : String) : IO (Option Std.Net.SocketAddress) := do
  match SocketAddress.ofText? address.toList with
  | some found => return some (networkAddress found.host found.port)
  | none =>
    let (host, port) := match Text.splitLast? ':' address.toList with
      | some (host, digits) => (String.ofList host, (portOf? digits).getD 80)
      | none => (address, 80)
    match ← lookUp host with
    | .ok (first :: _) => return some (networkAddress first port)
    | _ => return none

/-- Sends a request within a time. -/
def ask (limit : Duration) (r : Http.Request) : IO Http.Reply := do
  if !r.isSendable then return .missing
  let millis := limit.totalNanos / 1000000
  try
    match ← locate r.address with
    | none => return .missing
    | some address =>
      let reply : Async (Option Http.Reply) := return some (← exchange address r)
      let late : Async (Option Http.Reply) := do
        sleep (.ofNat millis)
        return none
      return (← (Async.race reply late).block).getD .missing
  catch _ => return .missing

/-! ## A run -/

/-- What the parts of a run share. -/
structure Shared where
  metrics : IO.Ref Metrics
  stopped : IO.Ref Bool
  level : Logging.Level
  format : Logging.Format

/-- The rank of a level. -/
def rank (level : Logging.Level) : Nat :=
  Logging.Level.all.idxOf level

/-- Writes a log record. -/
def Shared.log (s : Shared) (level : Logging.Level) (message : String)
    (fields : List (String × String)) : IO Unit := do
  if rank level ≤ rank s.level then
    let members := ("level", level.name.map Char.toUpper) :: ("message", message) :: fields
    match s.format with
    | .json =>
      IO.eprintln (Json.object (members.map fun (name, value) => (name, .text value))).render
    | _ =>
      IO.eprintln (" ".intercalate (level.name.map Char.toUpper :: message ::
        fields.map fun (name, value) => name ++ "=" ++ value))

/-- The present time. -/
def now : IO Instant := do
  return ⟨(← Std.Time.Timestamp.now).toNanosecondsSinceUnixEpoch.val⟩

/-- Waits a moment. -/
def pause : IO Unit := IO.sleep 5

/-- The seconds since a time of the clock. -/
def elapsedSince (start : Nat) : IO Float := do
  return ((← IO.monoNanosNow) - start).toFloat / 1000000000.0

/-- The address at a random position of a balancer. -/
def pickAddress (balancer : IO.Ref Balancer) : IO (Option String) := do
  let count := (← balancer.get).addresses.length
  let position ← IO.rand 0 (count - 1)
  balancer.modifyGet fun b =>
    let (picked, b) := b.pickAt position
    (picked.map (·.1), b)

/-- Resolves an endpoint anew every five minutes. -/
partial def refresh (s : Shared) (balancer : IO.Ref Balancer) (schedule : Schedule) : IO Unit := do
  if ← s.stopped.get then return
  let (due, schedule) := schedule.look (← IO.monoNanosNow)
  if due > 0 then
    let resolution ← resolve (← balancer.get).target
    match ← balancer.modifyGet fun b => b.resolve resolution with
    | .ok count =>
      s.metrics.modify (·.setResolved (← balancer.get).target (Int64.ofNat count))
    | .error cause => s.log .warn cause.message []
  else IO.sleep 100
  refresh s balancer schedule

/-- Starts to refresh a balancer. -/
def startRefreshing (s : Shared) (balancer : IO.Ref Balancer) :
    IO (Task (Except IO.Error Unit)) := do
  let schedule := Schedule.start (← IO.monoNanosNow) (Timeline.interval * 1000000000)
  IO.asTask (refresh s balancer schedule) .dedicated

/-- Sends an item into a channel, unless the run is stopped first. -/
partial def sendUnlessStopped {α : Type} (s : Shared) (channel : Std.CloseableChannel.Sync α)
    (item : α) : IO Bool := do
  if ← channel.trySend item then return true
  if ← s.stopped.get then return false
  pause
  sendUnlessStopped s channel item

/-- Closes a channel. -/
def close {α : Type} (channel : Std.CloseableChannel.Sync α) : IO Unit := do
  try EIO.toIO (fun _ => IO.userError "closed") channel.close
  catch _ => return

/-- Takes items out of a channel until it is closed and empty. -/
partial def work {α : Type} (channel : Std.CloseableChannel.Sync α) (handle : α → IO Unit) :
    IO Unit := do
  match ← channel.recv with
  | none => return
  | some item =>
    handle item
    work channel handle

/-- Starts a number of workers. -/
def startWorkers {α : Type} (count : Nat) (channel : Std.CloseableChannel.Sync α)
    (handle : α → IO Unit) : IO (List (Task (Except IO.Error Unit))) :=
  (List.range count).mapM fun _ => IO.asTask (work channel handle) .dedicated

/-- Pushes a batch and records how long it took. -/
def pushBatch (s : Shared) (balancer : IO.Ref Balancer) (options : Http.ClientOptions)
    (batch : Write.Batch) : IO Unit := do
  match ← pickAddress balancer with
  | none => s.log .error "unable to get client, no addresses resolved" []
  | some address =>
    let client : Write.PushClient := ⟨address, options⟩
    let start ← IO.monoNanosNow
    let reply ← match Wire.encodeBody batch with
      | none => pure .missing
      | some body => ask options.timeout (client.request body)
    let elapsed ← elapsedSince start
    let result ← s.metrics.modifyGet fun m => client.store (fun _ => reply) elapsed batch m
    match result with
    | .ok _ => return
    | .error e =>
      s.log .error "unable to write request" [("error", e.message), ("address", address),
        ("recoverable", toString e.isRecoverable)]

/-- Generates batches at every tick. -/
partial def generate (s : Shared) (run : String) (g : Generator) (schedule : Schedule)
    (channel : Std.CloseableChannel.Sync Write.Batch) : IO Unit := do
  if ← s.stopped.get then close channel
  else
    let (due, schedule) := schedule.look (← IO.monoNanosNow)
    if due = 0 then
      pause
      generate s run g schedule channel
    else
      let (series, g) := g.tick run (← now)
      for batch in splitBatches g.options.batchSize.toNat series do
        if ← sendUnlessStopped s channel batch then
          s.metrics.modify fun m => (m.addBatches 1).addSeries batch.length.toUInt64
      generate s run g schedule channel

/-- Runs the write benchmark until it is stopped. -/
def runWrite (s : Shared) (b : Write.Benchmark) : IO Unit := do
  let balancer ← IO.mkRef b.balancer
  let channel ← Std.CloseableChannel.Sync.new (some b.workers)
  let refreshing ← startRefreshing s balancer
  let workers ← startWorkers b.workers channel (pushBatch s balancer b.options)
  let period := b.generator.options.interval.totalNanos
  s.log .info "starting write benchmark" [("series", toString b.generator.totalSeries),
    ("replicas", toString b.generator.replicas), ("workers", toString b.workers)]
  generate s b.run b.generator (.start (← IO.monoNanosNow) period) channel
  for task in refreshing :: workers do discard (IO.wait task)
  s.log .info "write benchmark stopped" []

/-- Executes a query and records how long it took. -/
def executeQuery (s : Shared) (b : Query.Benchmark) (balancer : IO.Ref Balancer) (q : Query) :
    IO Unit := do
  match ← pickAddress balancer with
  | none => s.log .error "unable to get client, no addresses resolved" []
  | some address =>
    let client : QueryClient := ⟨address, b.pathStem, b.options⟩
    let time ← now
    let start ← IO.monoNanosNow
    let reply ← ask b.options.timeout (client.request q.expression (q.times time))
    let elapsed ← elapsedSince start
    let result ← s.metrics.modifyGet fun m => q.execute client (fun _ => reply) time elapsed m
    match result with
    | .ok _ => return
    | .error e =>
      s.log .warn "unable to execute query" [("error", e.message), ("address", address),
        ("expr", q.expression)]

/-- A query with its deadline; a query that is pending has not been accepted yet. -/
structure Ticking where
  query : Query
  schedule : Schedule
  pending : Bool

/-- Looks after one query. -/
def Ticking.advance (t : Ticking) (channel : Std.CloseableChannel.Sync Query) : IO Ticking := do
  let t ← if t.pending then pure t
    else do
      let (due, schedule) := t.schedule.look (← IO.monoNanosNow)
      pure (if due = 0 then t else { t with schedule := schedule, pending := true })
  if t.pending then return { t with pending := !(← channel.trySend t.query) }
  else return t

/-- Sends every query at its ticks. -/
partial def tickQueries (s : Shared) (queries : List Ticking)
    (channel : Std.CloseableChannel.Sync Query) : IO Unit := do
  if ← s.stopped.get then close channel
  else
    let queries ← queries.mapM fun t => t.advance channel
    pause
    tickQueries s queries channel

/-- Runs the query benchmark until it is stopped. -/
def runQueries (s : Shared) (b : Query.Benchmark) : IO Unit := do
  let balancer ← IO.mkRef b.balancer
  let channel ← Std.CloseableChannel.Sync.new (some b.workers)
  let refreshing ← startRefreshing s balancer
  let workers ← startWorkers b.workers channel (executeQuery s b balancer)
  let start ← IO.monoNanosNow
  s.log .info "starting query benchmark" [("queries", toString b.queries.length),
    ("workers", toString b.workers)]
  tickQueries s (b.queries.map fun q => ⟨q, .start start q.interval.totalNanos, false⟩) channel
  for task in refreshing :: workers do discard (IO.wait task)
  s.log .info "query benchmark stopped" []

/-- Writes a record of a ring check. -/
def Shared.logRecord (s : Shared) : Ring.Record → IO Unit
  | .summary instances total =>
    s.log .info "ring check" [("instances", toString instances), ("total", toString total)]
  | .share address series =>
    s.log .info "ring check" [("address", address), ("series", toString series)]
  | .failure cause => s.log .warn "ring check failed" [("error", cause.message)]

/-- Runs the ring check until it is stopped or ends by itself. -/
partial def runRingCheck (s : Shared) (r : Ring.Reporter) (last : Nat) : IO Unit := do
  if ← s.stopped.get then return
  if r.checker.isNone then
    s.log .error "benchmark task failed" [("error", "capacity overflow")]
    return
  IO.sleep 50
  let time ← IO.monoNanosNow
  let (records, r) := r.advance (time - last)
  records.forM s.logRecord
  runRingCheck s r time

/-- Answers requests for the metrics. -/
partial def answer (metrics : IO.Ref Metrics) (client : TCP.Socket.Client) : Async Unit := do
  match ← client.recv? 65536 with
  | none => return
  | some part =>
    let current ← metrics.get
    let page := match Http.requestLine? part.toList with
      | some (method, target) => current.serve method target
      | none => .bare 400
    client.send (Http.responseMessage page.status page.contentType page.body).toByteArray
    client.shutdown

/-- Accepts connections one after the other. -/
partial def serve (metrics : IO.Ref Metrics) (server : TCP.Socket.Server) : Async Unit := do
  let client ← server.accept
  try answer metrics client
  catch _ => pure ()
  serve metrics server

/-- Waits for a signal that ends the program. -/
def awaitTermination : IO Unit := do
  let waiting ← [Signal.sigterm, .sigint, .sighup, .sigquit].mapM fun signal => do
    (← Signal.Waiter.mk signal false).wait
  repeat
    if ← waiting.anyM fun task => IO.hasFinished task then return
    IO.sleep 20

/-- Lets a run go on until a signal ends it. -/
def run (r : Run) (filter : Option String) (server : Option TCP.Socket.Server) : IO Unit := do
  let level := (Logging.effectiveFilter r.settings.logging.level filter).1
  let shared : Shared :=
    ⟨← IO.mkRef r.metrics, ← IO.mkRef false, level, r.settings.logging.format⟩
  shared.log .info "Starting benchmark" [("id", r.settings.id)]
  if let some server := server then discard ( Async.toIO (serve shared.metrics server))
  let start ← IO.monoNanosNow
  let parts := (r.benchmarks.write.map (runWrite shared)).toList ++
    (r.benchmarks.query.map (runQueries shared)).toList ++
    (r.benchmarks.ringCheck.map fun reporter => runRingCheck shared reporter start).toList
  let tasks ← parts.mapM fun part => IO.asTask part .dedicated
  awaitTermination
  shared.log .info "Shutting down ..." []
  shared.stopped.set true
  for task in tasks do discard (IO.wait task)
  shared.log .info "Shutdown complete" []

end MetricLoad.Program

open MetricLoad MetricLoad.Program in
/-- Launches what the command line asks for. -/
def main (arguments : List String) : IO UInt32 := do
  let bindings ← environment
  let listener ← IO.mkRef none
  let around : Surroundings IO :=
    ⟨⟨bindings.lookup "HOSTNAME", ← processors⟩, bindings, readFile, resolve,
      openAddress listener⟩
  let seed ← IO.rand 0 4611686018427387904
  match ← around.launch seed.toUInt64 arguments with
  | .inl outcome =>
    IO.print outcome.output
    IO.eprint outcome.errors
    return outcome.code.toUInt32
  | .inr r =>
    run r (bindings.lookup "RUST_LOG") (← listener.get)
    return 0
