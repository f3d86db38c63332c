import ClusterHealth.Checks.BootArtifacts
import ClusterHealth.Checks.Cfs
import ClusterHealth.Checks.Conman
import ClusterHealth.Checks.Etcd
import ClusterHealth.Checks.Ims
import ClusterHealth.Checks.Vcs
import ClusterHealth.Dispatcher

/-! All checks with their configuration. -/
namespace ClusterHealth

/-- A configuration whose transfer mode is known. -/
structure Harness where
  config : Config
  mode : Transfer.Mode

namespace Harness

def ofConfig (c : Config) : Except ConfigurationError Harness :=
  match Transfer.Mode.parse? c.transfers.mode with
  | some mode => .ok ⟨c, mode⟩
  | none => .error (.invalidTransferMode c.transfers.mode)

def verifier (h : Harness) : Transfer.Verifier where
  nspace := h.config.nspace
  digestCommand := h.config.tools.md5sum
  scratchDir := h.config.transfers.scratchDir
  maxRedos := h.config.transfers.maxRedos
  mode := h.mode

def bootArtifacts (h : Harness) : Checks.BootArtifacts := ⟨h.config.transfers, h.verifier⟩

/-- One attempt of a check. -/
def check (h : Harness) (check : Check) (includeCommands : Bool) : Procedure Bool :=
  let nspace := h.config.nspace
  let cray := h.config.tools.cray
  match check with
  | .bos => Checks.bos nspace
  | .cfs => Checks.cfs nspace cray includeCommands
  | .conman => Checks.conman nspace h.config.conman.expectation
  | .crus => Checks.crus nspace
  | .ims => Checks.ims nspace cray h.config.ims.expectedRecipe includeCommands
  | .bootArtifacts => h.bootArtifacts.check
  | .vcs => Checks.vcs nspace

def dispatcher (h : Harness) : Dispatcher := ⟨h.check, h.config.timeouts⟩

def timeoutFor (h : Harness) : ServiceKey → RunOptions → Nat := h.dispatcher.timeoutFor

def dispatch (h : Harness) :
    String → RunOptions → Procedure (Except DispatchError (Except Retry.Fault ServiceOutcome)) :=
  h.dispatcher.dispatch

def run (h : Harness) :
    String → List ServiceKey → RunOptions → Procedure (Except Retry.Fault Report) :=
  h.dispatcher.run

end Harness
end ClusterHealth
