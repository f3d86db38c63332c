import ClusterHealth.Checks.Pods

/-! Version control: the main pod, its data base with claims, backups and waiting jobs. -/
namespace ClusterHealth.Checks
namespace Vcs

def isWaitJob (pod : Pod) : Bool := isJobName pod.name "gitea-vcs-wait-for-postgres-"

def isBackup (pod : Pod) : Bool := Text.startsWith pod.name "gitea-vcs-postgresql-db-backup-"

def isPostgres (pod : Pod) : Bool := Text.startsWith pod.name "gitea-vcs-postgres-"

/-- What a pod is for, judged by its name; of several fitting names the first one here counts. -/
inductive Role where
  | waitJob
  | backup
  | postgres
  | other
  deriving DecidableEq

def role (pod : Pod) : Role :=
  if isWaitJob pod then .waitJob
  else if isBackup pod then .backup
  else if isPostgres pod then .postgres
  else .other

/-- Backups may be at work or over, waiting jobs have to be over, and all other pods run. -/
def Role.allowedPhases : Role → List Phase
  | .waitJob => [.succeeded]
  | .backup => [.succeeded, .running, .pending]
  | .postgres | .other => [.running]

def podOk (nspace : String) (pod : Pod) : Procedure Bool :=
  .both
    (if role pod = .postgres then claimBound nspace s!"pgdata-{pod.name}" else return true)
    (phaseIn pod (role pod).allowedPhases)

def countsOk (pods : List Pod) : Procedure Bool := do
  let passed ←
    if pods.any (role · = .postgres) then pure true
    else .reject "Expected at least 1 gitea-vcs-postgres pod" [("found", "0")]
  if !pods.any (role · = .backup) then
    .warn "No gitea-vcs-postgresql-db-backup pods found; db has not yet been backed up" []
  return passed

end Vcs

def vcs (nspace : String) : Procedure Bool := do
  let (pods, counted) ← podsByName nspace "gitea-vcs" (.atLeast 2)
  let bound ← claimBound nspace "gitea-vcs-data-claim"
  let healthy ← .forAll pods (Vcs.podOk nspace)
  let complete ← Vcs.countsOk pods
  return counted && bound && healthy && complete

end ClusterHealth.Checks
