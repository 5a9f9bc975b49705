import MetricLoad.Http.Options
import MetricLoad.Logging.Level
import MetricLoad.Network.Address
import MetricLoad.Ring
import MetricLoad.Workload.Options

/-!
# Settings

What a run of the load generator is told apart from its workload: its identity, where its metrics
are served, and the options of the write benchmark, the query benchmark, the ring check, the
machine's threads, logging and error tracking.  Everything has a standard value.
-/

namespace MetricLoad

/-- The write benchmark. -/
structure WriteSettings where
  enabled : Bool := true
  endpoint : String := ""
  tenant : Option String := none
  credentials : Option Http.Credentials := none
  workers : UInt64 := 10
  /-- The options that a workload may override. -/
  options : WriteOptions := .standard
  deriving DecidableEq, Repr

/-- The query benchmark. -/
structure QuerySettings where
  enabled : Bool := false
  endpoint : String := ""
  pathPrefix : String := "/prometheus"
  tenant : Option String := none
  credentials : Option Http.Credentials := none
  workers : UInt64 := 50
  timeout : Duration := .ofSeconds 60
  deriving DecidableEq, Repr

/-- The ring check. -/
structure RingCheckSettings where
  enabled : Bool := false
  interval : Duration := .ofSeconds 60
  tenant : String := "fake"
  replicationFactor : UInt64 := 3
  /-- The number of tokens of an instance that lists none. -/
  tokenCount : UInt64 := 128
  instances : List Instance := []
  deriving DecidableEq, Repr

/-- Logging. -/
structure LoggingSettings where
  level : Logging.Level := .info
  format : Logging.Format := .auto
  deriving DecidableEq, Repr

/-- Error tracking, which is on when a destination is given. -/
structure TrackingSettings where
  destination : Option String := none
  environment : Option String := none
  serverName : Option String := none
  /-- The share of errors that are sent, as the bits of a single. -/
  sampleRate : UInt32 := 0x3f800000
  /-- The share of traces that are sent, as the bits of a single. -/
  traceSampleRate : UInt32 := 0x3c23d70a
  debug : Bool := false
  tags : List (String × String) := []
  deriving DecidableEq, Repr

/-- Whether errors are tracked. -/
def TrackingSettings.enabled (t : TrackingSettings) : Bool :=
  t.destination.isSome

/-- The settings of a run. -/
structure Settings where
  /-- The identity of the run. -/
  id : String
  /-- Where metrics are served. -/
  address : SocketAddress := ⟨.octets 0 0 0 0, 0, 80⟩
  workloadFile : String := "./workload.yaml"
  write : WriteSettings := {}
  query : QuerySettings := {}
  ringCheck : RingCheckSettings := {}
  /-- The number of threads that do the work. -/
  threads : UInt64
  logging : LoggingSettings := {}
  tracking : TrackingSettings := {}
  deriving DecidableEq, Repr

/-- The machine that a run is started on. -/
structure Machine where
  /-- Its name, if it is known. -/
  name : Option String
  cores : UInt64
  deriving DecidableEq, Repr

/-- The settings that hold unless others are given. -/
def Settings.standard (machine : Machine) : Settings :=
  { id := machine.name.getD "benchtool", threads := machine.cores }

end MetricLoad
