import ClusterHealth.Endpoint
import ClusterHealth.Failure
import ClusterHealth.Json.Record
import ClusterHealth.Pod
import ClusterHealth.Text.Affix

/-! Cluster objects as documents. -/
namespace ClusterHealth.Kubectl
open Json (Document)

/-- Decodes the document of an object of the kind `what`. -/
def decode (what json : String) (read : Document → Option α) : Except LookupError α :=
  match (Document.parse? json).bind read with
  | some value => .ok value
  | none => .error (.undecodable what)

/-! Pods. -/

def objectName? (doc : Document) : Option String := do
  (← doc.record? ["name"]).orElse "name" "" Document.text?

/-- A variable; without a value of its own it has the empty one. -/
def setVariable? (doc : Document) : Option (String × String) := do
  let r ← doc.record? ["name", "value"]
  some (← r.required "name" Document.text?, ← r.orElse "value" "" Document.text?)

def container? (doc : Document) : Option Container := do
  let r ← doc.record? ["name", "env"]
  some ⟨← r.required "name" Document.text?, ← r.orElse "env" [] (Document.list? setVariable?)⟩

def containers? (doc : Document) : Option (List Container) := do
  (← doc.record? ["containers"]).orElse "containers" [] (Document.list? container?)

def waitingReason? (doc : Document) : Option String := do
  (← doc.record? ["reason"]).orElse "reason" "" Document.text?

def waitingState? (doc : Document) : Option (Option String) := do
  (← doc.record? ["waiting"]).optional "waiting" waitingReason?

/-- A container with the reason that it waits for, if it waits. -/
def containerStatus? (doc : Document) : Option (String × Option String) := do
  let r ← doc.record? ["name", "state"]
  some (← r.required "name" Document.text?, ← r.orElse "state" none waitingState?)

structure PodStatus where
  phase : String := ""
  containers : List (String × Option String) := []

def podStatus? (doc : Document) : Option PodStatus := do
  let r ← doc.record? ["phase", "containerStatuses"]
  some {
    phase := ← r.orElse "phase" "" Document.text?
    containers := ← r.orElse "containerStatuses" [] (Document.list? containerStatus?) }

def pod? (doc : Document) : Option Pod := do
  let r ← doc.record? ["metadata", "spec", "status"]
  let name ← r.orElse "metadata" "" objectName?
  let containers ← r.orElse "spec" [] containers?
  let status ← r.orElse "status" {} podStatus?
  let waiting := status.containers.filterMap fun (name, reason) => reason.map (name, ·)
  some ⟨name, .parse status.phase, waiting, containers⟩

def pods? (doc : Document) : Option (List Pod) := do
  (← doc.record? ["items"]).orElse "items" [] (Document.list? pod?)

/-- Whether one pod may stand before another: order of names. -/
def inOrder (first second : Pod) : Bool := !(second.name < first.name)

/-- Pods whose names begin with `start`, in the order of their names. -/
def podsOfJson (json start : String) : Except LookupError (List Pod) := do
  let pods ← decode "pod list" json pods?
  return (pods.filter (Text.startsWith ·.name start)).mergeSort inOrder

/-! Claims and configuration maps. -/

def phase? (doc : Document) : Option String := do
  (← doc.record? ["phase"]).orElse "phase" "" Document.text?

def claimPhaseOfJson (json : String) : Except LookupError String :=
  decode "pvc" json fun doc => do (← doc.record? ["status"]).orElse "status" "" phase?

def fieldOfJson (json field : String) : Except LookupError (Option String) := do
  let data ← decode "config map" json fun doc => do
    (← doc.record? ["data"]).orElse "data" [] Document.textMap?
  return data.reverse.lookup field

/-! Services. -/

def servicePort? (doc : Document) : Option Int := do
  (← doc.record? ["port"]).orElse "port" 0 Document.int32?

structure ServiceSpec where
  clusterAddress : Option String := none
  loadBalancerAddress : Option String := none
  ports : List Int := []

def serviceSpec? (doc : Document) : Option ServiceSpec := do
  let r ← doc.record? ["clusterIP", "loadBalancerIP", "ports"]
  some {
    clusterAddress := ← r.optional "clusterIP" Document.text?
    loadBalancerAddress := ← r.optional "loadBalancerIP" Document.text?
    ports := ← r.orElse "ports" [] (Document.list? servicePort?) }

def ingress? (doc : Document) : Option (Option String) := do
  (← doc.record? ["ip"]).optional "ip" Document.text?

def loadBalancer? (doc : Document) : Option (List (Option String)) := do
  (← doc.record? ["ingress"]).orElse "ingress" [] (Document.list? ingress?)

/-- Addresses that the load balancer gave out. -/
def serviceStatus? (doc : Document) : Option (List (Option String)) := do
  (← doc.record? ["loadBalancer"]).orElse "loadBalancer" [] loadBalancer?

/-- The text that a service without address has in place of one. -/
def headless : String := "None"

/-- The cluster address counts unless it is empty or stands for none. The external address is the
one asked for, or else the first one given out. -/
def endpointOf (spec : ServiceSpec) (ingress : List (Option String)) : Endpoint where
  clusterAddress := (usable spec.clusterAddress).filter (· ≠ headless)
  externalAddress := usable spec.loadBalancerAddress <|> ingress.findSome? usable
  port := spec.ports.head?.getD 0
  extraPorts := spec.ports.tail

def endpoint? (doc : Document) : Option Endpoint := do
  let r ← doc.record? ["spec", "status"]
  some (endpointOf (← r.orElse "spec" {} serviceSpec?) (← r.orElse "status" [] serviceStatus?))

def endpointOfJson (json : String) : Except LookupError Endpoint := decode "service" json endpoint?

end ClusterHealth.Kubectl
