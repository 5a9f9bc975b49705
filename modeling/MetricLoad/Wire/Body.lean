import MetricLoad.Wire.Snappy
import MetricLoad.Wire.WriteRequest

/-!
# Bodies of push requests

The body of a push request is a compressed write request.
-/

namespace MetricLoad.Wire

/-- Why a body holds no series. -/
inductive BodyError
  | notCompressed
  | notARequest
  deriving DecidableEq, Repr

/-- The compressed body of some series, unless it would be too long. -/
def encodeBody (series : List TimeSeries) : Option (List UInt8) :=
  Snappy.compress (requestBytes series)

/-- The series of a compressed body. -/
def decodeBody (body : List UInt8) : Except BodyError (List TimeSeries) :=
  match Snappy.decompress body with
  | none => .error .notCompressed
  | some bytes =>
    match readRequest bytes with
    | none => .error .notARequest
    | some series => .ok series

end MetricLoad.Wire
