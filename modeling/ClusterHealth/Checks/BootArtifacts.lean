import ClusterHealth.Checks.BootSettings
import ClusterHealth.Config.Basic
import ClusterHealth.Transfer.Verify

/-!
Boot artifacts: the pods that build them, the pods and the claim that serve them, and verified
transfers of every artifact from every transfer service.
-/
namespace ClusterHealth.Checks

structure BootArtifacts where
  settings : Config.Transfers
  verifier : Transfer.Verifier

namespace BootArtifacts

def nspace (b : BootArtifacts) : String := b.verifier.nspace

/-- Reads the settings of the boot artifact service. -/
def loadSettings (b : BootArtifacts) : Procedure (Except ConfigurationError BootSettings) := do
  let map := b.settings.settingsConfigMap
  let key := b.settings.settingsKey
  match ← .request (.configMapField b.nspace map key) with
  | .error e => return .error (.malformed map e.message)
  | .ok none => return .error (.missingConfigMapField map key)
  | .ok (some text) => return BootSettings.parse text s!"{map}/{key}"

/-- The container of a pod that can see the artifacts. -/
def container (b : BootArtifacts) (pod : String) : Target :=
  .container b.nspace pod b.settings.container

/-- Whether an artifact can be listed and digested in a container. -/
def artifactReady (b : BootArtifacts) (target : Target) (name : String) : Procedure Bool := do
  let path := Transfer.pathIn b.settings.artifactDir name
  match ← .request (.exec target "ls" ["-al", path]) with
  | .error e =>
    .reject "File does not appear to exist in the ipxe container"
      [("target", target.text), ("path", path), ("error", e.message)]
  | .ok _ => return (← Transfer.readDigest b.verifier.digestCommand target path).isOk

/-- Whether the container of a pod answers commands and has all artifacts. -/
def containerReady (b : BootArtifacts) (pod : String) (artifacts : List String) :
    Procedure Bool := do
  let target := b.container pod
  match ← .request (.exec target "date" []) with
  | .error e =>
    .reject "Unable to run even basic command in ipxe container"
      [("target", target.text), ("error", e.message)]
  | .ok _ => .forAll artifacts (b.artifactReady target)

/-- A pod with the artifacts that it builds. -/
structure Builder where
  pod : String
  artifacts : List String
  deriving DecidableEq

/-- What is built if that cannot be found out. -/
def defaultBuild : List (Architecture × List String) := [(.x86, [])]

/-- Finds out what is built, and whether that went well. -/
def expected (b : BootArtifacts) : Procedure (List (Architecture × List String) × Bool) := do
  let artifacts := (← b.loadSettings).bind (·.artifacts b.settings.settingsConfigMap)
  match artifacts with
  | .error e =>
    .error "Unable to determine which ipxe binaries to expect" [("error", e.message)]
    return (defaultBuild, false)
  | .ok [] =>
    .error "ipxe settings do not enable any architecture" []
    return (defaultBuild, false)
  | .ok artifacts => return (artifacts, true)

/-- Judges the one pod that builds for an architecture. -/
def builder (b : BootArtifacts) (arch : Architecture) (artifacts : List String) :
    Procedure (Option Builder × Bool) := do
  match b.settings.podStems.lookup arch.name with
  | none =>
    .error "No ipxe pod prefix configured for architecture" [("arch", arch.name)]
    return (none, false)
  | some stem =>
    let (pods, counted) ← podsByName b.nspace stem (.exactly 1)
    let healthy ← podsHealthy pods
    match pods, counted with
    | pod :: _, true =>
      let ready ← b.containerReady pod.name artifacts
      return (some ⟨pod.name, artifacts⟩, healthy && ready)
    | _, _ => return (none, false)

/-- Judges the pods of all architectures, also behind a failure. -/
def builders (b : BootArtifacts) :
    List (Architecture × List String) → Procedure (List Builder × Bool)
  | [] => return ([], true)
  | (arch, artifacts) :: rest => do
    let (first, passed) ← b.builder arch artifacts
    let (others, allPassed) ← b.builders rest
    return (first.toList ++ others, passed && allPassed)

/-- Judges the pods and the claim that serve artifacts. -/
def serversOk (b : BootArtifacts) : Procedure Bool := do
  let (pods, counted) ← podsByName b.nspace "cray-tftp" (.atLeast 1)
  let healthy ← if counted then podsHealthy pods else pure false
  let bound ← claimBound b.nspace b.settings.sharedClaim
  return healthy && bound

/-- Whether this host is a master node, which cannot reach the transfer services; `none` if its
name cannot be read. -/
def onMaster : Procedure (Option Bool) := do
  match ← .request (.exec .host "hostname" []) with
  | .ok name => return some (Text.startsWith (Text.trim name) "ncn-m")
  | .error e =>
    .error "Error checking node hostname" [("error", e.message)]
    return none

/-- Transfers every artifact of every pod from one service. -/
def transfersFrom (b : BootArtifacts) (builders : List Builder) (service : String) :
    Procedure Bool :=
  .forAll builders fun builder =>
    .forAll builder.artifacts fun name =>
      b.verifier.verifyService service
        (.inDir name b.settings.artifactDir (b.container builder.pod))

def transfers (b : BootArtifacts) (builders : List Builder) : Procedure Bool :=
  .forAll b.settings.services (b.transfersFrom builders)

/-- Transfers are tried only if everything before is in order. -/
def check (b : BootArtifacts) : Procedure Bool := do
  let (build, known) ← b.expected
  let (builders, built) ← b.builders build
  let served ← b.serversOk
  if !(known && built && served) then return false
  if b.settings.skipOnMaster then
    match ← onMaster with
    | none => return false
    | some true => return true
    | some false => b.transfers builders
  else b.transfers builders

end BootArtifacts
end ClusterHealth.Checks
