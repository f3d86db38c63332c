import ClusterHealth.Procedure
import ClusterHealth.Text.Affix

/-! Judgements on pods and claims that several checks share; each failure is logged. -/
namespace ClusterHealth.Checks

/-- A container that should wait for a reason. -/
structure Expectation where
  container : String
  reason : String
  deriving DecidableEq

/-- Says that `found` pods are too many or too few. -/
def miscount (start : String) (count : PodCount) (found : Nat) : Procedure Unit :=
  let complaint (bound : String) (expected : Nat) :=
    Procedure.error s!"Expected {bound} {expected} pods"
      [("prefix", start), ("expected", toString expected), ("found", toString found)]
  match count.max with
  | some max =>
    if max = count.min then complaint "exactly" max
    else if max < found then complaint "at most" max
    else complaint "at least" count.min
  | none => complaint "at least" count.min

/-- Pods whose names begin with `start`, and whether they could be listed and are as many as
they should be. They are returned even if their count is wrong. -/
def podsByName (nspace start : String) (count : PodCount) : Procedure (List Pod × Bool) := do
  match ← .request (.listPods nspace start) with
  | .error e =>
    .error "Unable to list pods"
      [("prefix", start), ("namespace", nspace), ("error", e.message)]
    return ([], false)
  | .ok pods =>
    if count.admits pods.length then return (pods, true)
    else
      miscount start count pods.length
      return (pods, false)

/-- Whether the expected container of `pod` waits for the expected reason; the first entry that
names it counts. -/
def expectationMet (pod : Pod) (e : Expectation) : Procedure Bool :=
  match pod.waiting.find? (·.1 == e.container) with
  | none =>
    .reject "Container is not waiting"
      [("pod", pod.name), ("container", e.container), ("expected", e.reason)]
  | some (_, reason) =>
    if reason = e.reason then return true
    else
      .reject "Unexpected container waiting reason"
        [("pod", pod.name), ("container", e.container), ("actual", reason),
          ("expected", e.reason)]

/-- Containers that wait although nobody expects them to. -/
def unexpectedlyWaiting (pod : Pod) (expected : Option Expectation) : List (String × String) :=
  pod.waiting.filter fun (container, _) => !expected.any (·.container == container)

/-- Whether a pod runs or has ended well, and no container waits unless expected. -/
def podHealthy (pod : Pod) (expected : Option Expectation) : Procedure Bool :=
  if pod.phase = .running ∨ pod.phase = .succeeded then
    .both
      (match expected with
      | some e => expectationMet pod e
      | none => return true)
      (.forAll (unexpectedlyWaiting pod expected) fun (container, reason) =>
        .reject "Container is waiting"
          [("pod", pod.name), ("container", container), ("reason", reason)])
  else
    .reject "Pod phase is neither Running nor Succeeded"
      [("pod", pod.name), ("phase", pod.phase.text)]

def podsHealthy (pods : List Pod) : Procedure Bool :=
  .forAll pods (podHealthy · none)

def phaseIn (pod : Pod) (allowed : List Phase) : Procedure Bool :=
  if pod.phase ∈ allowed then return true
  else
    .reject "Pod has unexpected phase"
      [("pod", pod.name), ("phase", pod.phase.text),
        ("allowed", ", ".intercalate (allowed.map Phase.text))]

/-- Logs a phase that is no failure. -/
def notePhase (pod : Pod) (remark : String) : Procedure Unit :=
  .warn remark [("pod", pod.name), ("phase", pod.phase.text)]

/-- Whether a claim is bound to storage. -/
def claimBound (nspace name : String) : Procedure Bool := do
  match ← .request (.claimPhase nspace name) with
  | .error e => .reject "Unable to get pvc status" [("pvc", name), ("error", e.message)]
  | .ok phase =>
    if phase = "Bound" then return true
    else if phase.isEmpty then .reject "PVC has no status" [("pvc", name)]
    else .reject "Expected Bound status for pvc" [("pvc", name), ("phase", phase)]

/-- Whether a name is `stem`, digits, a dash and anything else, as names of one-time jobs are. -/
def isJobName (name stem : String) : Bool :=
  match Text.after? name stem with
  | none => false
  | some rest =>
    let digits := rest.toList.takeWhile Decimal.isDigit
    let behind := rest.toList.dropWhile Decimal.isDigit
    !digits.isEmpty && behind.head? == some '-'

end ClusterHealth.Checks
