import ClusterHealth.Checks.Api
import ClusterHealth.Checks.CommandLists
import ClusterHealth.Checks.Pods

/-! The configuration service: its interface pods, its operator pods and its lists. -/
namespace ClusterHealth.Checks.Cfs

inductive Role where
  | api
  | operator
  deriving DecidableEq

def Role.name : Role → String
  | .api => "api"
  | .operator => "operator"

/-- What a pod is for; jobs and data bases have no role. -/
def role? (pod : Pod) : Option Role :=
  if Text.startsWith pod.name "cray-cfs-api" then some .api
  else if Text.startsWith pod.name "cray-cfs-operator" then some .operator
  else none

/-- A pod with a role has to run; one that has ended well is only noted. -/
def podOk (pod : Pod) : Procedure Bool :=
  if (role? pod).isNone then return true
  else if pod.phase = .succeeded then do
    notePhase pod "cfs service pod has Succeeded"
    return true
  else phaseIn pod [.running]

def roleFilled (pods : List Pod) (role : Role) : Procedure Bool :=
  if pods.any (role? · = some role) then return true
  else .reject "No cfs pod found" [("role", role.name)]

def podsOk (nspace : String) : Procedure Bool := do
  let (pods, counted) ← podsByName nspace "cray-cfs" (.atLeast 2)
  let healthy ← .forAll pods podOk
  let filled ← .forAll [.api, .operator] (roleFilled pods)
  return counted && healthy && filled

def commandLists : List String := ["configurations", "sources"]

end Cfs

def cfs (nspace cray : String) (includeCommands : Bool) : Procedure Bool := do
  let pods ← Cfs.podsOk nspace
  let api ← Api.cfs
  let commands ← if includeCommands then listsAreArrays cray "cfs" Cfs.commandLists
    else pure true
  return pods && api && commands

end ClusterHealth.Checks
