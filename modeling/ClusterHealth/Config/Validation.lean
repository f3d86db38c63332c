import ClusterHealth.Config.Basic
import ClusterHealth.Failure
import ClusterHealth.Transfer.Mode

/-! Which configurations are accepted. -/
namespace ClusterHealth.Config

def logLevels : List String := ["trace", "debug", "info", "warn", "error"]

def logFormats : List String := ["json", "pretty"]

def isWebUrl (url : String) : Bool :=
  Text.startsWith url "http://" || Text.startsWith url "https://"

/-- The first thing that is wrong. -/
def fault? (c : Config) : Option ConfigurationError :=
  if Text.blank c.nspace then some .emptyNamespace
  else if c.timeouts.defaultSeconds = 0 then some (.invalidDefaultTimeout 0)
  else
    match c.timeouts.perService.find? fun (key, _) => (ServiceKey.parse? key).isNone with
    | some (key, _) => some (.unknownServiceKey key)
    | none =>
      if !Text.startsWith c.transfers.artifactDir "/" then
        some (.invalidArtifactDir c.transfers.artifactDir)
      else if c.transfers.maxRedos = 0 then some (.invalidMaxRedos 0)
      else if (Transfer.Mode.parse? c.transfers.mode).isNone then
        some (.invalidTransferMode c.transfers.mode)
      else if !isWebUrl c.gateway.baseUrl then some (.invalidApiUrl c.gateway.baseUrl)
      else if c.logging.level ∉ logLevels then some (.invalidLogLevel c.logging.level)
      else if c.logging.format ∉ logFormats then some (.invalidLogFormat c.logging.format)
      else none

def validate (c : Config) : Except ConfigurationError Unit :=
  match c.fault? with
  | some e => .error e
  | none => .ok ()

end ClusterHealth.Config
