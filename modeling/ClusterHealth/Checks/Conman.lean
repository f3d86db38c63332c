import ClusterHealth.Checks.Pods

/-! The console manager: one pod and its claim. -/
namespace ClusterHealth.Checks

/-- The pod is healthy, apart from a container that is expected to wait. -/
def conman (nspace : String) (expected : Option Expectation) : Procedure Bool := do
  let (pods, counted) ← podsByName nspace "cray-conman" (.exactly 1)
  let healthy ← .forAll pods (podHealthy · expected)
  let bound ← claimBound nspace "cray-conman-data-claim"
  return counted && healthy && bound

end ClusterHealth.Checks
