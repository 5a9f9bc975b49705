import MetricLoad.Balancer
import MetricLoad.Schedule

/-!
# Refreshing the addresses of a balancer

The addresses are resolved anew every five minutes, and a resolution that takes more than ten
seconds counts as late.  A timeline holds a clock, a balancer, what the next resolutions will
give, and the refreshing with its resolution under way.  Moving the clock lets everything happen
that falls into the time, in order.  A resolution that is asked for outside the rhythm moves the
clock by as long as it takes; what falls on its very end happens only when time is waited for again.

Times are in seconds.
-/

namespace MetricLoad

/-- What a resolution will give, and after how long. -/
structure Attempt where
  delay : Nat
  answer : Except DiscoveryError (List String)

namespace Attempt

/-- The longest time a resolution may take. -/
def limit : Nat := 10

/-- How long the attempt is waited for. -/
def duration (a : Attempt) : Nat :=
  min a.delay limit

/-- The outcome of an attempt. -/
def resolution (a : Attempt) : Resolution :=
  if limit < a.delay then .late
  else match a.answer with
    | .error cause => .failed cause
    | .ok addresses => .found addresses

end Attempt

/-- What is to come; the last of it is repeated. -/
structure Script (α : Type) where
  current : α
  later : List α

/-- The next part of a script and the script after it. -/
def Script.take {α : Type} (s : Script α) : α × Script α :=
  match s.later with
  | [] => (s.current, s)
  | next :: rest => (s.current, ⟨next, rest⟩)

/-- The refreshing of a balancer. -/
structure Refreshing where
  /-- When the next resolution begins, unless the refreshing has been cancelled. -/
  begins : Option Nat
  /-- A resolution under way: when it ends and with which outcome. -/
  underWay : Option (Nat × Resolution)

/-- A balancer with a clock. -/
structure Timeline where
  now : Nat
  balancer : Balancer
  script : Script Attempt
  refreshing : Refreshing

namespace Timeline

/-- The time between two resolutions. -/
def interval : Nat := 300

/-- A balancer that is not refreshed. -/
def still (now : Nat) (b : Balancer) (s : Script Attempt) : Timeline :=
  ⟨now, b, s, ⟨none, none⟩⟩

/-- The timeline with the refreshing started now. -/
def startRefreshing (t : Timeline) : Timeline :=
  { t with refreshing := ⟨some (t.now + interval), none⟩ }

/-- Stops the refreshing; a resolution under way still ends. -/
def cancel (t : Timeline) : Timeline :=
  { t with refreshing := ⟨none, t.refreshing.underWay⟩ }

/-- Ends the resolution under way if it is due. -/
def finish (t : Timeline) (until_ : Nat) : Option Timeline :=
  match t.refreshing.underWay with
  | some (ends, outcome) =>
    if ends ≤ until_ then
      some { t with
        now := max t.now ends
        balancer := (t.balancer.resolve outcome).2
        refreshing := ⟨t.refreshing.begins, none⟩ }
    else none
  | none => none

/-- Begins the next resolution if it is due. -/
def begin (t : Timeline) (until_ : Nat) : Option Timeline :=
  match t.refreshing.begins with
  | some begins =>
    if begins ≤ until_ && t.refreshing.underWay.isNone then
      let (attempt, script) := t.script.take
      some { t with
        now := max t.now begins
        script := script
        refreshing := ⟨some (begins + interval),
          some (begins + attempt.duration, attempt.resolution)⟩ }
    else none
  | none => none

/-- Lets everything happen up to a time. -/
def runWithin : Nat → Nat → Timeline → Timeline
  | 0, until_, t => { t with now := max t.now until_ }
  | fuel + 1, until_, t =>
    match t.finish until_ with
    | some t => runWithin fuel until_ t
    | none =>
      match t.begin until_ with
      | some t => runWithin fuel until_ t
      | none => { t with now := max t.now until_ }

/-- Moves the clock.  At most two things happen in every interval. -/
def advance (t : Timeline) (seconds : Nat) : Timeline :=
  runWithin (2 * (seconds / interval + 2)) (t.now + seconds) t

/-- Waits for something that takes a time; what falls on its end is left for later. -/
def await (t : Timeline) : Nat → Timeline
  | 0 => t
  | seconds + 1 => { t.advance seconds with now := t.now + seconds + 1 }

/-- Resolves outside the rhythm. -/
def resolve (t : Timeline) : Except BalancerError Nat × Timeline :=
  let (attempt, script) := t.script.take
  let t := { t with script := script }.await attempt.duration
  let (result, b) := t.balancer.resolve attempt.resolution
  (result, { t with balancer := b })

/-- The timeline after the first resolution of an endpoint. -/
def create (target : String) (s : Script Attempt) : Except BalancerError Timeline :=
  let (attempt, script) := s.take
  (Balancer.create target attempt.resolution).map fun b => still attempt.duration b script

end Timeline
end MetricLoad
