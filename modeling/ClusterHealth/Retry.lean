import ClusterHealth.Procedure
import ClusterHealth.Service

/-!
Repeated attempts of a check before a deadline. The pause between attempts grows with their number
and is cut short so that one more attempt fits in before the deadline.
-/
namespace ClusterHealth.Retry

/-- Seconds that the pause grows by with every attempt. -/
def step : Nat := 5

/-- The pause after an attempt far from the deadline: at most a sixth of the whole time. -/
def backoff (attempt timeout : Nat) : Nat := min (step * attempt) (timeout / 6)

/-- Seconds to pause after an attempt that ended `left` whole seconds before the deadline. If two
pauses of the usual length do not fit, this one is a little more than half of the time left. -/
def sleepSeconds (attempt : Nat) (left : Int) (timeout : Nat) : Nat :=
  if left ≤ 1 then 1
  else
    let usual := backoff attempt timeout
    max 1 <|
      if left ≤ usual then left.toNat - 1
      else if left < 2 * usual then left.toNat / 2 + 1
      else usual

/-- Attempts of one check of a service. -/
structure Plan where
  service : ServiceKey
  timeout : Nat
  deadline : Instant

/-- Plans attempts from `start` on. There is no plan if the calendar ends before the deadline. -/
def plan? (service : ServiceKey) (timeout : Nat) (start : Instant) : Option Plan :=
  let deadline := start.addSeconds timeout
  if deadline.InRange then some ⟨service, timeout, deadline⟩ else none

namespace Plan

/-- Whole seconds of the clock from `now` to the deadline. -/
def secondsLeft (p : Plan) (now : Instant) : Int := p.deadline.seconds - now.seconds

def sleepAt (p : Plan) (attempt : Nat) (now : Instant) : Nat :=
  sleepSeconds attempt (p.secondsLeft now) p.timeout

end Plan

/-- Why a series of attempts breaks down instead of giving a verdict. -/
inductive Fault where
  | deadlineOutOfRange
  | attemptsExhausted
  deriving DecidableEq

/-- A verdict, unless the attempts broke down. -/
abbrev Verdict := Except Fault Bool

/-- The number of the first attempt. -/
def firstAttempt : Nat := 1

/-- More attempts than this are not counted. -/
def attemptBound : Nat := Nat.pow 2 32 - 1

/-- A longer grace period counts as this one. -/
def graceBound : Nat := Nat.pow 2 63 - 1

/-- Attempts number `attempt` and, while it and those after it fail, up to `more` of them. -/
def attempts (check : Procedure Bool) (p : Plan) (grace : Nat) :
    Nat → Nat → Procedure Verdict
  | 0, _ => return .error .attemptsExhausted
  | more + 1, attempt => do
    let final := p.secondsLeft (← .request .now) ≤ 1
    if ← check then return .ok true
    if final then
      .warn "Final attempt failed"
        [("service", p.service.name), ("attempt", toString attempt)]
      return .ok false
    if (grace : Int) ≤ -p.secondsLeft (← .request .now) then
      .warn (s!"Not retrying because stop time has already been exceeded by at least {grace} " ++
          "seconds")
        [("service", p.service.name), ("grace_secs", toString grace)]
      return .ok false
    .request (.sleep (p.sleepAt attempt (← .request .now)))
    attempts check p grace more (attempt + 1)

/-- Repeats `check` until it passes, fails with at most one second left, or ends `grace` seconds or
more behind the deadline. -/
def withRetry (service : ServiceKey) (timeout grace : Nat) (check : Procedure Bool) :
    Procedure Verdict := do
  match plan? service timeout (← .request .now) with
  | none => return .error .deadlineOutOfRange
  | some p => attempts check p (min grace graceBound) attemptBound firstAttempt

end ClusterHealth.Retry
