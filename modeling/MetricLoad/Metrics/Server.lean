import MetricLoad.Http.Status
import MetricLoad.Metrics.Exposition

/-!
# Serving metrics

Two paths answer to `GET`: one with the text of the metrics, and one that only says that the program
is alive.  `HEAD` gets the same without a body.  Other methods and other paths are refused.
-/

namespace MetricLoad.Metrics

open Http

/-- A page that is served. -/
structure Page where
  status : Status
  contentType : Option String
  body : String
  deriving DecidableEq, Repr

/-- A page that says nothing but its status. -/
def Page.bare (code : Nat) : Page :=
  ⟨⟨code⟩, none, ""⟩

/-- The type of the text of metrics. -/
def textType : String := "text/plain; version=0.0.4; charset=utf-8"

/-- The page of a path. -/
def page? (m : Metrics) (path : String) : Option Page :=
  if path == "/metrics" then some ⟨⟨200⟩, some textType, m.exposition⟩
  else if path == "/health" then some ⟨⟨200⟩, some "text/plain; charset=utf-8", "OK"⟩
  else none

/-- A target of a request without its query. -/
def withoutQuery (target : String) : String :=
  String.ofList (target.toList.takeWhile fun c => c != '?' && c != '#')

/-- What is answered to a request. -/
def serve (m : Metrics) (method target : String) : Page :=
  match m.page? (withoutQuery target) with
  | none => .bare 404
  | some page =>
    if method == "GET" then page
    else if method == "HEAD" then { page with body := "" }
    else .bare 405

end MetricLoad.Metrics
