import ClusterHealth.Checks.Pods
import ClusterHealth.Json.Printer

/-! Parts of rehearsals as they are scripted; what is left out is empty, zero or false. -/
namespace ClusterHealth.Rehearsal.Script

def field (key : String) (script : Json) : Json := (script.field? key).getD .null

def textOf (script : Json) : String := script.string?.getD ""

def itemsOf (script : Json) : List Json := script.array?.getD []

def intOf : Json → Int
  | .number (.integer n) => n
  | _ => 0

def boolOf : Json → Bool
  | .bool value => value
  | _ => false

def text (key : String) (script : Json) : String := textOf (field key script)

def text? (key : String) (script : Json) : Option String := (field key script).string?

def items (key : String) (script : Json) : List Json := itemsOf (field key script)

def int (key : String) (script : Json) : Int := intOf (field key script)

def nat (key : String) (script : Json) : Nat := (int key script).toNat

/-- A number that may be left out. -/
def nat? (key : String) (script : Json) : Option Nat :=
  match field key script with
  | .number (.integer n) => some n.toNat
  | _ => none

def bool (key : String) (script : Json) : Bool := boolOf (field key script)

def texts (key : String) (script : Json) : List String := (items key script).map textOf

/-- A list of two texts. -/
def pairOf (script : Json) : String × String :=
  match itemsOf script with
  | first :: second :: _ => (textOf first, textOf second)
  | _ => ("", "")

def container (script : Json) : Container where
  name := text "name" script
  env := (items "env" script).map pairOf

def pod (script : Json) : Pod where
  name := text "name" script
  phase := .parse (text "phase" script)
  waiting := (items "waiting" script).map pairOf
  containers := (items "containers" script).map container

def endpoint (script : Json) : Endpoint where
  clusterAddress := text? "cluster_ip" script
  externalAddress := text? "external_ip" script
  port := int "port" script
  extraPorts := (items "extra_ports" script).map intOf

/-- A container as a list of three texts, or else this host. -/
def target (script : Json) : Target :=
  match script with
  | .array [nspace, pod, name] => .container (textOf nspace) (textOf pod) (textOf name)
  | _ => .host

def delivery (script : Json) : Transfer.Delivery where
  content :=
    let once := Text.encodeUtf8 (text "data" script)
    (List.replicate ((nat? "repeat" script).getD 1) once).flatten
  interruption := text? "fail" script
  piece := (nat? "chunk" script).filter (0 < ·)

end ClusterHealth.Rehearsal.Script
