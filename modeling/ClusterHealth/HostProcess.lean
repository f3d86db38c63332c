import ClusterHealth.Procedure
import ClusterHealth.Text.Blank

/-! Commands as programs of this host; the cluster's command line brings them into containers. -/
namespace ClusterHealth.HostProcess

/-- The program and the arguments that carry out a command. -/
def program (kubectl : String) (target : Target) (command : String) (args : List String) :
    String × List String :=
  match target with
  | .host => (command, args)
  | .container nspace pod name =>
    (kubectl, ["exec", "-n", nspace, pod, "-c", name, "--", command] ++ args)

/-- What a program printed about its failure. -/
def complaint (e : Ending) : String := Text.trim (Text.decodeUtf8Lenient e.stderr)

def exec (kubectl : String) (target : Target) (command : String) (args : List String) :
    Procedure (Except ExecError String) := do
  let line := " ".intercalate (command :: args)
  let (program, arguments) := program kubectl target command args
  match ← .request (.launch program arguments) with
  | .error reason => return .error (.launch line reason)
  | .ok ending =>
    if ending.succeeded then return .ok (Text.decodeUtf8Lenient ending.stdout)
    .warn "Command failed"
      [("target", target.text), ("command", line), ("status", ending.exit.text),
        ("stderr", complaint ending)]
    return .error (.failed line ending.exit.text (complaint ending))

/-- Answers commands and passes on all other requests. -/
def answer (kubectl : String) : (r : Request) → Procedure (Reply r)
  | .exec target command args => exec kubectl target command args
  | r => .request r

end ClusterHealth.HostProcess
