import MetricLoad.Http.Request
import MetricLoad.Text.Blank
import MetricLoad.Text.Digit

/-!
# Messages on the wire

A request is written with its headers, the length of its body and the wish to close the connection
afterwards.  A response is read from everything that came before the connection was closed.  Its
body is cut into chunks, has a stated length, or ends with the connection; a body that breaks off
is missing.
-/

namespace MetricLoad.Http

open Text

/-- The line break of messages. -/
def lineBreak : String := "\r\n"

/-- A header line. -/
def headerLine (name value : String) : String :=
  name ++ ": " ++ value ++ lineBreak

/-- The bytes of a request. -/
def Request.message (r : Request) : List UInt8 :=
  bytes (r.method ++ " " ++ r.path ++ " HTTP/1.1" ++ lineBreak ++
    headerLine "host" r.address ++
    headerLine "user-agent" "benchtool/0.1.0" ++
    String.join (r.headers.map fun (name, value) => headerLine name value) ++
    headerLine "content-length" (toString r.body.length) ++
    headerLine "connection" "close" ++ lineBreak) ++ r.body

/-- The line in front of a line break, and what follows it. -/
def splitLine? : List UInt8 → Option (List UInt8 × List UInt8)
  | 13 :: 10 :: rest => some ([], rest)
  | b :: rest => (splitLine? rest).map fun (line, rest) => (b :: line, rest)
  | [] => none

theorem length_of_splitLine? {s line rest : List UInt8} (h : splitLine? s = some (line, rest)) :
    rest.length < s.length := by
  fun_induction splitLine? s generalizing line with
  | case1 rest' =>
    simp only [Option.some.injEq, Prod.mk.injEq] at h
    rw [← h.2]
    simp only [List.length_cons]
    omega
  | case2 b tail _ ih =>
    obtain ⟨found, hfound, heq⟩ := Option.map_eq_some_iff.1 h
    simp only [Prod.mk.injEq] at heq
    have hshort : rest.length < tail.length := @ih found.1 (by rw [hfound, ← heq.2])
    simp only [List.length_cons]
    omega
  | case3 => simp at h

/-- A header: its name in lower case and its value. -/
def header? (line : List UInt8) : Option (String × String) :=
  let chars := decodeLossyChars line
  match chars.dropWhile (· != ':') with
  | [] => none
  | _ :: value =>
    some (String.ofList ((chars.takeWhile (· != ':')).map Char.toLower),
      String.ofList (trim value))

/-- The headers up to an empty line, and what follows it. -/
def headers? (s : List UInt8) : Option (List (String × String) × List UInt8) :=
  match _h : splitLine? s with
  | none => none
  | some ([], rest) => some ([], rest)
  | some (line, rest) =>
    (headers? rest).map fun (headers, rest) => ((header? line).toList ++ headers, rest)
termination_by s.length
decreasing_by exact length_of_splitLine? _h

/-- The length that the line in front of a chunk states. -/
def chunkLength? (line : List UInt8) : Option Nat :=
  radixNumber? 16 ((decodeLossyChars line).takeWhile fun c => (hexDigit? c).isSome)

/-- The bytes of some chunks.  Every chunk takes at least one byte of the message. -/
def chunksWithin : Nat → List UInt8 → Option (List UInt8)
  | 0, _ => none
  | fuel + 1, s =>
    (splitLine? s).bind fun (line, rest) =>
      (chunkLength? line).bind fun length =>
        if length = 0 then some []
        else if rest.length < length + 2 then none
        else (chunksWithin fuel (rest.drop (length + 2))).map (rest.take length ++ ·)

/-- The body of a response with some headers. -/
def body? (headers : List (String × String)) (s : List UInt8) : Option (List UInt8) :=
  match headers.lookup "transfer-encoding", headers.lookup "content-length" with
  | some coding, _ =>
    if coding.map Char.toLower == "chunked" then chunksWithin s.length s else some s
  | none, some length =>
    (natural? length.toList).bind fun n => if s.length < n then none else some (s.take n)
  | none, none => some s

/-- The status in the first line of a response. -/
def status? (line : List UInt8) : Option Status :=
  match (String.ofList (decodeLossyChars line)).splitOn " " with
  | _ :: code :: _ =>
    (natural? code.toList).bind fun n => if 100 ≤ n ∧ n < 1000 then some ⟨n⟩ else none
  | _ => none

/-- The reply that the bytes of a response are. -/
def Reply.ofMessage (s : List UInt8) : Reply :=
  let read := do
    let (line, rest) ← splitLine? s
    let status ← status? line
    let (headers, rest) ← headers? rest
    return Reply.response status (body? headers rest)
  read.getD .missing

/-- The method and the target of a request. -/
def requestLine? (s : List UInt8) : Option (String × String) :=
  (splitLine? s).bind fun (line, _) =>
    match (String.ofList (decodeLossyChars line)).splitOn " " with
    | method :: target :: _ => some (method, target)
    | _ => none

/-- The bytes of a response that closes the connection. -/
def responseMessage (status : Status) (contentType : Option String) (body : String) : List UInt8 :=
  let body := bytes body
  bytes ("HTTP/1.1 " ++ status.text ++ lineBreak ++
    String.join ((contentType.map (headerLine "content-type")).toList) ++
    headerLine "content-length" (toString body.length) ++
    headerLine "connection" "close" ++ lineBreak) ++ body

end MetricLoad.Http
