import ClusterHealth.Retry

/-! Rehearsals of retries: each attempt takes some time and passes or not, as scripted. -/
namespace ClusterHealth.Rehearsal

/-- A reply that refuses a request, where one can be refused. -/
def refusal : (r : Request) → Reply r
  | .listPods .. | .claimPhase .. | .configMapField .. => .error (.queryFailed "refused")
  | .findService nspace name => .error (.serviceNotFound nspace name "refused")
  | .getJson path => .error (.request path "refused")
  | .exec _ command _ => .error (.launch command "refused")
  | .connect remote => .error (.connect remote "refused")
  | .receive session artifact _ => .error (.receive session.address artifact "refused")
  | .launch .. | .postForm .. | .fetch .. => .error "refused"
  | .createFile .. => none
  | .writeFile .. => .error .file
  | .openLog .. => false
  | .removeFile .. => ()
  | .now => ⟨0⟩
  | .sleep .. => ()

structure AttemptScript where
  passes : Bool
  millis : Int

structure Attempts where
  clock : Instant
  /-- Attempts to come; the last one is repeated. -/
  script : List AttemptScript
  /-- When attempts began, the last one first. -/
  starts : List Instant := []
  /-- Seconds of each pause, the last one first. -/
  pauses : List Nat := []

namespace Attempts

/-- The command that stands for an attempt. -/
def command : String := "attempt"

def check : Procedure Bool := return (← .request (.exec .host command [])).isOk

def begin (a : Attempts) : Except ExecError String × Attempts :=
  let a := { a with starts := a.clock :: a.starts }
  let failure := Except.error (.failed command "exit status: 1" "")
  match a.script with
  | [] => (failure, a)
  | attempt :: rest =>
    (if attempt.passes then .ok "" else failure,
      { a with
        clock := ⟨a.clock.millis + attempt.millis⟩
        script := if rest.isEmpty then [attempt] else rest })

def answer : (r : Request) → Attempts → Reply r × Attempts
  | .exec .., a => a.begin
  | .now, a => (a.clock, a)
  | .sleep seconds, a =>
    ((), { a with clock := a.clock.addSeconds seconds, pauses := seconds :: a.pauses })
  | r, a => (refusal r, a)

end Attempts
end ClusterHealth.Rehearsal
