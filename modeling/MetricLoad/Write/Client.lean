import MetricLoad.Http.Request
import MetricLoad.Metrics
import MetricLoad.Wire.Body

/-!
# Pushing series

A batch of series is sent as a compressed write request to one address.  The latency is recorded
under the status of the response, or under `error` when there is none; a batch that cannot be
encoded is not sent and not recorded.  Only requests without a response and those that the server
failed to serve are worth another attempt.
-/

namespace MetricLoad.Write

open Http

/-- Why a batch was not stored. -/
inductive WriteError
  /-- The batch is too long for the wire. -/
  | tooLong
  | noResponse
  | rejected (status : Status) (message : String)
  deriving DecidableEq, Repr

/-- Whether another attempt may succeed. -/
def WriteError.isRecoverable : WriteError → Bool
  | .tooLong => false
  | .noResponse => true
  | .rejected status _ => status.isServerError

/-- The wording of an error. -/
def WriteError.message : WriteError → String
  | .tooLong => "failed to encode write request"
  | .noResponse => "failed to send write request"
  | .rejected status message => "server returned HTTP status " ++ status.text ++ ": " ++ message

/-- The number of bytes of an error response that are looked at. -/
def messageLimit : Nat := 512

/-- The characters up to a line feed, without a carriage return in front of it. -/
def firstLine (s : List Char) : List Char :=
  let line := s.takeWhile (· != '\n')
  if line.length < s.length then
    match line.reverse with
    | '\r' :: rest => rest.reverse
    | _ => line
  else line

/-- The first line of the beginning of an error response. -/
def errorMessage (body : List UInt8) : String :=
  String.ofList (firstLine (Text.decodeLossyChars (body.take messageLimit)))

/-- A client that pushes to one address. -/
structure PushClient where
  address : String
  options : ClientOptions

namespace PushClient

/-- The request that pushes a body. -/
def request (c : PushClient) (body : List UInt8) : Request :=
  ⟨"POST", c.address, "/api/v1/push",
    [("content-encoding", "snappy"), ("content-type", "application/x-protobuf"),
      ("x-prometheus-remote-write-version", "0.1.0")] ++ c.options.headers, body⟩

/-- What the reply to a push says about the batch. -/
def judge : Reply → Except WriteError Status
  | .missing => .error .noResponse
  | .response status body =>
    if status.isSuccess then .ok status
    else .error (.rejected status (errorMessage (body.getD [])))

/-- The code that the latency of a push is recorded under. -/
def replyCode : Reply → String
  | .missing => "error"
  | .response status _ => toString status.code

/-- Pushes a batch: the outcome and the metrics after it. -/
def store (c : PushClient) (peer : Peer) (elapsed : Float) (series : List TimeSeries)
    (m : Metrics) : Except WriteError Status × Metrics :=
  match Wire.encodeBody series with
  | none => (.error .tooLong, m)
  | some body =>
    let reply := peer.send (c.request body)
    (judge reply, m.observeWrite (replyCode reply) elapsed)

end PushClient
end MetricLoad.Write
