import MetricLoad.Decimal.Shortest
import MetricLoad.Http.Encoding
import MetricLoad.Http.Request
import MetricLoad.Metrics
import MetricLoad.Query.Derivation
import MetricLoad.Query.Response

/-!
# Sending queries

A query is a form that is posted to one address below a common path.  An instant query asks for one
point in time and a range query for a span with a step between points.  A response counts as a
success when its status is one and its content says so; a content that is no response is the same as
none at all.
-/

namespace MetricLoad

open Http

/-- Why a query has no result. -/
inductive QueryError
  | noResponse
  | refused (status : Status) (errorType error : String)
  deriving DecidableEq, Repr

/-- The wording of an error. -/
def QueryError.message : QueryError → String
  | .noResponse => "failed to send query request"
  | .refused status errorType error =>
    "query failed with status " ++ status.text ++ " (" ++ errorType ++ "): " ++ error

/-- The points in time that a query asks for. -/
inductive QueryTimes
  | at (time : Instant)
  | range (start stop : Instant) (step : Duration)
  deriving DecidableEq, Repr

/-- A client that queries one address. -/
structure QueryClient where
  address : String
  pathStem : String
  options : ClientOptions

namespace QueryClient

/-- A text without the slashes at both ends. -/
def withoutOuterSlashes (s : String) : String :=
  let isSlash := (· == '/')
  String.ofList ((s.toList.dropWhile isSlash).reverse.dropWhile isSlash).reverse

/-- What stands between the address and the path of a query. -/
def stem (c : QueryClient) : String :=
  let inner := withoutOuterSlashes c.pathStem
  if inner.isEmpty then "" else "/" ++ inner

/-- The root of the query interface. -/
def baseUrl (c : QueryClient) : String :=
  "http://" ++ c.address ++ c.stem

/-- The layout of the step: no exponent, and no point in a whole number. -/
def stepLayout : Decimal.Layout := ⟨none, none, false⟩

/-- The path of a query and the fields of its form. -/
def form (expression : String) : QueryTimes → String × List (String × String)
  | .at time => ("/api/v1/query", [("query", expression), ("time", time.queryText)])
  | .range start stop step =>
    ("/api/v1/query_range",
      [("query", expression), ("start", start.queryText), ("end", stop.queryText),
        ("step", stepLayout.float step.toFloat)])

/-- The request of a query. -/
def request (c : QueryClient) (expression : String) (times : QueryTimes) : Request :=
  let (path, fields) := form expression times
  ⟨"POST", c.address, requestPath (c.stem ++ path),
    ("content-type", "application/x-www-form-urlencoded") :: c.options.headers,
    Text.bytes (formBody fields)⟩

/-- What the reply to a query says. -/
def judge : Reply → Except QueryError ApiResponse
  | .missing => .error .noResponse
  | .response status body =>
    match body.bind ApiResponse.ofBytes? with
    | none => .error .noResponse
    | some response =>
      if status.isSuccess && response.status == "success" then .ok response
      else .error (.refused status (response.errorType.getD "unknown") (response.error.getD ""))

/-- Sends a query. -/
def send (c : QueryClient) (peer : Peer) (expression : String) (times : QueryTimes) :
    Except QueryError ApiResponse :=
  judge (peer.send (c.request expression times))

end QueryClient

namespace Query

/-- The step between the points of a range query. -/
def rangeStep : Duration := Duration.ofSeconds 60

/-- The points in time that a query asks for when it is sent. -/
def times (q : Query) (now : Instant) : QueryTimes :=
  if q.isRange then .range (now.before q.range) now rangeStep else .at now

/-- The outcome that a result is recorded under. -/
def outcome : Except QueryError ApiResponse → String
  | .ok _ => "success"
  | .error _ => "failure"

/-- Executes a query: the result and the metrics after it. -/
def execute (q : Query) (c : QueryClient) (peer : Peer) (now : Instant) (elapsed : Float)
    (m : Metrics) : Except QueryError ApiResponse × Metrics :=
  let result := c.send peer q.expression (q.times now)
  (result, m.observeQuery (outcome result) q.typeName elapsed)

end Query
end MetricLoad
