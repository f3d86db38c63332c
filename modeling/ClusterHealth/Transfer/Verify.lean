import ClusterHealth.Transfer.Artifact
import ClusterHealth.Transfer.Lookup
import ClusterHealth.Transfer.Probe

/-!
Verified transfers. An artifact may be replaced while it is served, so every transfer stands between
two digests taken at the server and is redone until they agree. Only then is the digest of the
received file compared with them.
-/
namespace ClusterHealth.Transfer

structure Verifier where
  nspace : String
  digestCommand : String
  scratchDir : String
  /-- How often a transfer is redone because the artifact changed. -/
  maxRedos : Nat
  mode : Mode

namespace Verifier

/-- Why an artifact that cannot be written to a file is not received. -/
def unwritten (remote artifact file : String) : WriteError → TransferError
  | .file => .localFile file
  | .content reason => .receive remote artifact reason

/-- Receives an artifact into a file and returns its size. -/
def fetch (v : Verifier) (session : Session) (remote artifact file : String) :
    Procedure (Except TransferError Nat) := do
  match ← .request (.receive session artifact v.mode) with
  | .error e => return .error e
  | .ok delivery =>
    match ← .request (.writeFile file delivery.landed) with
    | .error e => return .error (unwritten remote artifact file e)
    | .ok () =>
      match delivery.interruption with
      | some reason => return .error (.receive remote artifact reason)
      | none => return .ok delivery.content.length

/-- Makes a scratch file for an artifact and returns its path. -/
def createScratch (v : Verifier) (artifact : String) :
    Procedure (Except TransferError String) := do
  match ← .request (.createFile v.scratchDir scratchLead (scratchTail artifact)) with
  | none => return .error (.localFile v.scratchDir)
  | some tag => return .ok (scratchPath v.scratchDir tag artifact)

/-- Compares the received file with the artifact. -/
def compare (v : Verifier) (remote file : String) (digest : Digest) :
    Procedure (Except ProbeError Bool) := do
  match ← readDigest v.digestCommand .host file with
  | .error e => return .error e
  | .ok received =>
    if received = digest then return .ok true
    .error "Digest of remote file does not match that of received file"
      [("remote", remote), ("remote_digest", digest.text), ("local_digest", received.text)]
    return .ok false

/-- What a transfer shows. -/
inductive Finding where
  /-- The artifact did not change meanwhile, and was or was not received as it is. -/
  | settled (equal : Bool)
  | changed (after : Digest)

/-- A transfer into `file`, and the digest behind it. -/
def transfer (v : Verifier) (session : Session) (remote : String) (artifact : Artifact)
    (before : Digest) (file : String) : Procedure (Except ProbeError Finding) := do
  match ← v.fetch session remote artifact.name file with
  | .error e => return .error (.transfer e)
  | .ok _ =>
    match ← readDigest v.digestCommand artifact.source artifact.path with
    | .error e => return .error e
    | .ok after =>
      if after = before then return (← v.compare remote file before).map .settled
      else return .ok (.changed after)

/-- A transfer into a scratch file that is gone afterwards, whatever comes of it. -/
def attempt (v : Verifier) (session : Session) (remote : String) (artifact : Artifact)
    (before : Digest) : Procedure (Except ProbeError Finding) := do
  match ← v.createScratch artifact.name with
  | .error e => return .error (.transfer e)
  | .ok file =>
    let finding ← v.transfer session remote artifact before file
    .request (.removeFile file)
    return finding

/-- Transfers until the artifact settles, with up to `redos` repetitions. -/
def settle (v : Verifier) (session : Session) (remote : String) (artifact : Artifact)
    (redos : Nat) (before : Digest) : Procedure (Except ProbeError Bool) := do
  match ← v.attempt session remote artifact before with
  | .error e => return .error e
  | .ok (.settled equal) => return .ok equal
  | .ok (.changed after) =>
    match redos with
    | 0 => return .error (.transfer (.contentUnstable artifact.name v.maxRedos))
    | redos + 1 =>
      .warn "Remote file changed around the time of our transfer. Must redo transfer"
        [("remote", remote), ("artifact", artifact.name),
          ("redo", toString (v.maxRedos - redos))]
      v.settle session remote artifact redos after

/-- Transfers an artifact from one address and compares it. -/
def transferAndCompare (v : Verifier) (remote : String) (artifact : Artifact) :
    Procedure (Except ProbeError Bool) := do
  match ← .request (.connect remote) with
  | .error e => return .error (.transfer e)
  | .ok session =>
    match ← readDigest v.digestCommand artifact.source artifact.path with
    | .error e => return .error e
    | .ok before => v.settle session remote artifact v.maxRedos before

def verifyEndpoint (v : Verifier) (remote : String) (artifact : Artifact) : Procedure Bool := do
  match ← v.transferAndCompare remote artifact with
  | .ok equal => return equal
  | .error e =>
    .reject "tftp receive test failed"
      [("remote", remote), ("artifact", artifact.name), ("error", e.message)]

/-- Transfers an artifact from every address of a service. An invalid extra port fails the check,
but the transfers still run. -/
def verifyService (v : Verifier) (service : String) (artifact : Artifact) : Procedure Bool := do
  match ← lookUp v.nspace service with
  | .error _ => return false
  | .ok endpoint =>
    if endpoint.coverage = .nothing then
      .reject "Cannot run file transfer test without valid IP address" [("service", service)]
    else
      let transfers ← .forAll endpoint.targets fun (_, remote) =>
        v.verifyEndpoint remote artifact
      return transfers && endpoint.invalidExtraPorts.isEmpty

end Verifier
end ClusterHealth.Transfer
