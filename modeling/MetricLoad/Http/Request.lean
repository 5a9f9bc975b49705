import MetricLoad.Http.Base64
import MetricLoad.Http.Options
import MetricLoad.Http.Status
import MetricLoad.Text.Utf8

/-!
# Requests and replies

A request goes to a peer, which answers with a status and a body or not at all.  Header values hold
no control characters but tabs; a request with any other value is not sent.
-/

namespace MetricLoad.Http

/-- A request. -/
structure Request where
  method : String
  address : String
  path : String
  headers : List (String × String)
  body : List UInt8
  deriving DecidableEq, Repr

/-- What comes back for a request. -/
inductive Reply
  /-- No response before the time limit. -/
  | missing
  /-- A response; its body is missing when it breaks off. -/
  | response (status : Status) (body : Option (List UInt8))
  deriving DecidableEq, Repr

/-- A peer: what it answers to each request. -/
abbrev Peer := Request → Reply

/-- The peer that no request reaches. -/
def Peer.unreachable : Peer := fun _ => .missing

/-- Whether a text may be the value of a header. -/
def isHeaderValue (s : String) : Bool :=
  s.toList.all fun c => c == '\t' || (0x20 ≤ c.toNat && c.toNat != 0x7F)

/-- The header that selects the tenant. -/
def tenantHeader : String := "x-scope-orgid"

/-- The value of the header with credentials. -/
def Credentials.header (c : Credentials) : String :=
  "Basic " ++ String.ofList (base64 (Text.bytes (c.username ++ ":" ++ c.password)))

/-- The headers that the options add to a request. -/
def ClientOptions.headers (o : ClientOptions) : List (String × String) :=
  (o.credentials.map fun c => ("authorization", c.header)).toList ++
    (o.tenant.filter (!·.isEmpty)).toList.map fun t => (tenantHeader, t)

/-- Whether all header values of a request are allowed. -/
def Request.isSendable (r : Request) : Bool :=
  r.headers.all fun (_, value) => isHeaderValue value

/-- Sends a request, unless one of its header values is not allowed. -/
def Peer.send (peer : Peer) (r : Request) : Reply :=
  if r.isSendable then peer r else .missing

end MetricLoad.Http
