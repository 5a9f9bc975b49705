import MetricLoad.Text.Digit
import MetricLoad.Text.Split

/-!
# Network addresses

An address has four octets, or eight groups of sixteen bits of which one run of zeros may be left
out in writing.  The written form of eight groups leaves out the first of the longest runs of at
least two zeros.  A socket address adds a port.
-/

namespace MetricLoad

open Text

/-- An address of a host. -/
inductive HostAddress
  | octets (a b c d : UInt8)
  | groups (g : Vector UInt16 8)
  deriving DecidableEq, Repr

namespace HostAddress

/-- The parts of a text between the occurrences of a character. -/
def splitAt (c : Char) : List Char → List (List Char)
  | [] => [[]]
  | x :: rest =>
    if x = c then [] :: splitAt c rest
    else match splitAt c rest with
      | [] => [[x]]
      | part :: parts => (x :: part) :: parts

/-- An octet: at most three decimal digits, without a zero in front of others. -/
def octet? (s : List Char) : Option UInt8 :=
  match s with
  | '0' :: _ :: _ => none
  | _ => (natural? s).bind fun n =>
      if n < 256 ∧ s.length ≤ 3 then some n.toUInt8 else none

/-- Four octets between points. -/
def ofOctetText? (s : List Char) : Option (UInt8 × UInt8 × UInt8 × UInt8) :=
  match splitAt '.' s with
  | [a, b, c, d] => do
    return (← octet? a, ← octet? b, ← octet? c, ← octet? d)
  | _ => none

/-- A group: one to four hexadecimal digits. -/
def group? (s : List Char) : Option UInt16 :=
  if s.isEmpty || 4 < s.length then none
  else (Text.radixNumber? 16 s).map (·.toUInt16)

/-- Groups, the last of which may be written as four octets that stand for two groups. -/
def groupParts? : List (List Char) → Option (List UInt16)
  | [] => some []
  | [part] =>
    match ofOctetText? part with
    | some (a, b, c, d) =>
      some [a.toUInt16 * 256 + b.toUInt16, c.toUInt16 * 256 + d.toUInt16]
    | none => (group? part).map fun g => [g]
  | part :: rest => do
    let g ← group? part
    let gs ← groupParts? rest
    return g :: gs

/-- A possibly empty list of groups between colons. -/
def groupList? (s : List Char) : Option (List UInt16) :=
  if s.isEmpty then some [] else groupParts? (splitAt ':' s)

/-- The texts before and after the first pair of colons. -/
def splitGap? : List Char → Option (List Char × List Char)
  | [] => none
  | [_] => none
  | a :: b :: rest =>
    if a = ':' ∧ b = ':' then some ([], rest)
    else (splitGap? (b :: rest)).map fun (before, after) => (a :: before, after)

/-- Eight groups. -/
def ofGroups? (gs : List UInt16) : Option HostAddress :=
  if h : gs.length = 8 then some (.groups ⟨gs.toArray, by simpa using h⟩) else none

/-- Eight groups in writing; a pair of colons stands for at least one group of zeros. -/
def ofGroupText? (s : List Char) : Option HostAddress :=
  match splitGap? s with
  | none => (groupList? s).bind ofGroups?
  | some (before, after) => do
    let front ← groupList? before
    if before.contains '.' then none
    let back ← groupList? after
    if front.length + back.length < 8 then
      ofGroups? (front ++ List.replicate (8 - front.length - back.length) 0 ++ back)
    else none

/-- The address that a text writes. -/
def ofText? (s : List Char) : Option HostAddress :=
  match ofOctetText? s with
  | some (a, b, c, d) => some (.octets a b c d)
  | none => ofGroupText? s

/-- Whether a run of zeros is longer than another one. -/
def longestRun (best : Nat × Nat) : Nat → List UInt16 → Nat → Nat × Nat
  | _, [], _ => best
  | index, g :: rest, run =>
    if g = 0 then
      let best := if best.2 < run + 1 then (index - run, run + 1) else best
      longestRun best (index + 1) rest (run + 1)
    else longestRun best (index + 1) rest 0

/-- Groups between colons. -/
def groupsText (gs : List UInt16) : String :=
  ":".intercalate (gs.map fun g => String.ofList (Nat.toDigits 16 g.toNat))

/-- The written form of an address. -/
def text : HostAddress → String
  | .octets a b c d =>
    ".".intercalate ([a, b, c, d].map fun o => toString o.toNat)
  | .groups g =>
    match g.toList with
    | [0, 0, 0, 0, 0, 0xFFFF, h, l] =>
      "::ffff:" ++ ".".intercalate
        ([h.toNat / 256, h.toNat % 256, l.toNat / 256, l.toNat % 256].map toString)
    | gs =>
      let (start, length) := longestRun (0, 0) 0 gs 0
      if 1 < length then
        groupsText (gs.take start) ++ "::" ++ groupsText (gs.drop (start + length))
      else groupsText gs

end HostAddress

/-- A port: decimal digits for a number of sixteen bits. -/
def portOf? (s : List Char) : Option UInt16 :=
  (natural? s).bind fun n => if n < 65536 then some n.toUInt16 else none

/-- An address with a port. -/
structure SocketAddress where
  host : HostAddress
  /-- The interface that a link-local address belongs to. -/
  scope : UInt32 := 0
  port : UInt16
  deriving DecidableEq, Repr

namespace SocketAddress

/-- Reads the inside of the brackets around eight groups. -/
def bracketed? (inside : List Char) : Option (HostAddress × UInt32) :=
  match HostAddress.splitAt '%' inside with
  | [host] => (HostAddress.ofGroupText? host).map fun h => (h, 0)
  | [host, scope] => do
    let h ← HostAddress.ofGroupText? host
    let n ← natural? scope
    if n < UInt32.size then return (h, n.toUInt32) else none
  | _ => none

/-- The socket address that a text writes: four octets, or eight groups in brackets, and a port
behind a colon. -/
def ofText? (s : List Char) : Option SocketAddress := do
  let (host, port) ← splitLast? ':' s
  let port ← portOf? port
  match host with
  | '[' :: rest =>
    match rest.reverse with
    | ']' :: inside =>
      let (host, scope) ← bracketed? inside.reverse
      return ⟨host, scope, port⟩
    | _ => none
  | _ =>
    let (a, b, c, d) ← HostAddress.ofOctetText? host
    return ⟨.octets a b c d, 0, port⟩

/-- The written form of a socket address. -/
def text (a : SocketAddress) : String :=
  let host := match a.host with
    | .octets .. => a.host.text
    | .groups _ =>
      "[" ++ a.host.text ++ (if a.scope = 0 then "" else "%" ++ toString a.scope.toNat) ++ "]"
  host ++ ":" ++ toString a.port.toNat

end SocketAddress
end MetricLoad
