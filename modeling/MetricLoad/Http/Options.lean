import MetricLoad.Duration.Decimal
import MetricLoad.Text.Quoted

/-!
# Options of requests

A request has a time limit and may carry credentials and a tenant.  The description of the options
never shows the password.
-/

namespace MetricLoad.Http

/-- A name and a password. -/
structure Credentials where
  username : String
  password : String
  deriving DecidableEq, Repr

/-- The options of every request of a client. -/
structure ClientOptions where
  timeout : Duration
  credentials : Option Credentials
  tenant : Option String
  deriving DecidableEq, Repr

/-- The description of an optional value. -/
def describeOptional {α : Type} (describe : α → String) : Option α → String
  | none => "None"
  | some a => "Some(" ++ describe a ++ ")"

/-- The description of credentials, without the password. -/
def Credentials.description (c : Credentials) : String :=
  "BasicAuth \x7b username: " ++ Text.quoted c.username ++ ", password: [redacted] \x7d"

/-- The description of options. -/
def ClientOptions.description (o : ClientOptions) : String :=
  "ClientOptions \x7b timeout: " ++ o.timeout.decimalText ++ ", basic_auth: " ++
    describeOptional Credentials.description o.credentials ++ ", tenant_id: " ++
    describeOptional Text.quoted o.tenant ++ " \x7d"

end MetricLoad.Http
