import ClusterHealth.Config.Basic
import ClusterHealth.Failure
import ClusterHealth.Report.Basic
import ClusterHealth.Retry

/-! Runs of the checks behind service keys. -/
namespace ClusterHealth

/-- How services are checked in one run. -/
structure RunOptions where
  includeCommands : Bool := false
  noRetry : Bool := false
  /-- Replaces the time that is spent on every service. -/
  timeout : Option Nat := none

/-- Checks, with the time that is spent on each service. -/
structure Dispatcher where
  /-- One attempt of a check, with or without command lists. -/
  check : Check → Bool → Procedure Bool
  timeouts : Config.Timeouts

namespace Dispatcher

/-- Seconds after which attempts to check a service end. -/
def timeoutFor (d : Dispatcher) (key : ServiceKey) (options : RunOptions) : Nat :=
  options.timeout.getD (d.timeouts.forService key)

/-- Attempts to check a service, or the only one. -/
def attempts (d : Dispatcher) (key : ServiceKey) (options : RunOptions) :
    Procedure Retry.Verdict :=
  let check := d.check key.check options.includeCommands
  if options.noRetry then return .ok (← check)
  else
    Retry.withRetry key (d.timeoutFor key options) d.timeouts.graceSeconds check

/-- Seconds from one point in time to another. The milliseconds are rounded to a float before they
are divided. -/
def elapsed (start stop : Instant) : Decimal.Binary64 :=
  .ofFloat (Float.ofInt (stop.millis - start.millis) / 1000)

def testService (d : Dispatcher) (key : ServiceKey) (options : RunOptions) :
    Procedure (Except Retry.Fault ServiceOutcome) := do
  let start ← .request .now
  match ← d.attempts key options with
  | .error fault => return .error fault
  | .ok passed =>
    let elapsed := elapsed start (← .request .now)
    if !passed then
      .error s!"FAILURE: {key.name} service test failed"
        [("service", key.name), ("elapsed_secs", elapsed.text)]
    return .ok ⟨key, passed, d.timeoutFor key options, elapsed⟩

/-- Checks the service that a text names. -/
def dispatch (d : Dispatcher) (text : String) (options : RunOptions) :
    Procedure (Except DispatchError (Except Retry.Fault ServiceOutcome)) := do
  match ServiceKey.parse? text with
  | some key => return .ok (← d.testService key options)
  | none =>
    let e := DispatchError.unknownService (Text.trim text) ServiceKey.supported
    .error "Invalid dispatch" [("error", e.message)]
    return .error e

/-- Keys of which none has the check of one before it, or one of those in `seen`. -/
def distinctChecks (seen : List Check) : List ServiceKey → List ServiceKey
  | [] => []
  | key :: rest =>
    if key.check ∈ seen then distinctChecks seen rest
    else key :: distinctChecks (key.check :: seen) rest

/-- Checks services one after another. -/
def testServices (d : Dispatcher) (options : RunOptions) :
    List ServiceKey → Procedure (Except Retry.Fault (List ServiceOutcome))
  | [] => return .ok []
  | key :: rest => do
    match ← d.testService key options with
    | .error fault => return .error fault
    | .ok outcome => return (← d.testServices options rest).map (outcome :: ·)

/-- Checks every service asked for, each check under the first key that leads to it. -/
def run (d : Dispatcher) (runId : String) (keys : List ServiceKey) (options : RunOptions) :
    Procedure (Except Retry.Fault Report) := do
  let start ← .request .now
  let outcomes ← d.testServices options (distinctChecks [] keys)
  return outcomes.map fun outcomes => ⟨runId, start, outcomes⟩

end Dispatcher
end ClusterHealth
