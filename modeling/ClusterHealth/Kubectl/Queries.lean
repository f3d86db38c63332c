import ClusterHealth.Kubectl.Objects
import ClusterHealth.Procedure

/-! Cluster queries answered by the command line of the cluster. -/
namespace ClusterHealth.Kubectl

/-- Prints objects of a name space as a document. -/
def getJson (kubectl nspace : String) (objects : List String) :
    Procedure (Except ExecError String) :=
  .request (.exec .host kubectl ("get" :: objects ++ ["-n", nspace, "-o", "json"]))

/-- Prints objects and decodes the document; `failure` says what a failing command means. -/
def query (kubectl nspace : String) (objects : List String) (failure : ExecError → LookupError)
    (decode : String → Except LookupError α) : Procedure (Except LookupError α) := do
  match ← getJson kubectl nspace objects with
  | .error e => return .error (failure e)
  | .ok json => return decode json

def failed (e : ExecError) : LookupError := .queryFailed e.message

/-- Answers requests for cluster objects, and passes on all others. -/
def answer (kubectl : String) : (r : Request) → Procedure (Reply r)
  | .listPods nspace start =>
    query kubectl nspace ["pods"] failed (podsOfJson · start)
  | .claimPhase nspace name =>
    query kubectl nspace ["pvc", name] failed claimPhaseOfJson
  | .configMapField nspace name field =>
    query kubectl nspace ["configmap", name] failed (fieldOfJson · field)
  | .findService nspace name =>
    query kubectl nspace ["service", name]
      (fun e => .serviceNotFound nspace name e.message) endpointOfJson
  | r => .request r

end ClusterHealth.Kubectl
