import ClusterHealth.Digest
import ClusterHealth.Procedure

/-! Digests of files, taken where the files lie. -/
namespace ClusterHealth.Transfer

/-- Runs the digest command for the file at `path` and reads its output. -/
def readDigest (command : String) (target : Target) (path : String) :
    Procedure (Except ProbeError Digest) := do
  let report (message error : String) :=
    Procedure.error message [("target", target.text), ("path", path), ("error", error)]
  match ← .request (.exec target command [path]) with
  | .error e =>
    report "Unable to generate digest" e.message
    return .error (.exec e)
  | .ok output =>
    match Digest.ofOutput output path with
    | .error e =>
      report "Invalid digest output" e.message
      return .error (.digest e)
    | .ok digest => return .ok digest

end ClusterHealth.Transfer
