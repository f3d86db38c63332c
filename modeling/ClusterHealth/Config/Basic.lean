import ClusterHealth.Checks.Pods
import ClusterHealth.Recipe
import ClusterHealth.Service

/-! The configuration and its defaults. -/
namespace ClusterHealth

/-- Values by name, in the order of the names. -/
abbrev NameMap (α : Type) := List (String × α)

namespace Config

structure Timeouts where
  /-- For services without an entry in `perService`. -/
  defaultSeconds : Nat
  /-- Seconds behind the deadline from which on nothing is tried again. -/
  graceSeconds : Nat
  perService : NameMap Nat
  deriving DecidableEq

structure Transfers where
  services : List String
  /-- Where the container of the boot artifact service holds artifacts. -/
  artifactDir : String
  container : String
  /-- How the names of pods begin, for each architecture. -/
  podStems : NameMap String
  settingsConfigMap : String
  settingsKey : String
  sharedClaim : String
  scratchDir : String
  maxRedos : Nat
  skipOnMaster : Bool
  mode : String
  deriving DecidableEq

structure Tools where
  kubectl : String
  curl : String
  md5sum : String
  cray : String
  deriving DecidableEq

structure Gateway where
  baseUrl : String
  tokenPath : String
  clientId : String
  secretName : String
  secretNamespace : String
  secretKey : String
  verifyCertificates : Bool
  timeoutSeconds : Nat
  deriving DecidableEq

structure Ims where
  recipeName : Option String
  recipeDistro : String
  deriving DecidableEq

structure Conman where
  container : String
  /-- Why the container has to wait; without a reason it must not. -/
  expectedWaitingReason : Option String
  deriving DecidableEq

structure Logging where
  level : String
  format : String
  dir : Option String
  rotation : String
  deriving DecidableEq

end Config

structure Config where
  nspace : String
  timeouts : Config.Timeouts
  transfers : Config.Transfers
  tools : Config.Tools
  gateway : Config.Gateway
  ims : Config.Ims
  conman : Config.Conman
  logging : Config.Logging
  deriving DecidableEq

namespace Config

/-- All services but one are often still starting when they are checked, and get longer. -/
def Timeouts.default : Timeouts where
  defaultSeconds := 60
  graceSeconds := 30
  perService := (ServiceKey.all.filter (· ≠ .ims)).map fun key => (key.name, 300)

def Transfers.default : Transfers where
  services := ["cray-tftp", "cray-tftp-hmn"]
  artifactDir := "/shared_tftp"
  container := "cray-ipxe"
  podStems := [("aarch64", "cray-ipxe-aarch64"), ("x86-64", "cray-ipxe-x86-64")]
  settingsConfigMap := "cray-ipxe-settings"
  settingsKey := "settings.yaml"
  sharedClaim := "cray-tftp-shared-pvc"
  scratchDir := "/tmp"
  maxRedos := 10
  skipOnMaster := true
  mode := "octet"

def Tools.default : Tools := ⟨"kubectl", "curl", "md5sum", "cray"⟩

def Gateway.default : Gateway where
  baseUrl := "https://api-gw-service-nmn.local"
  tokenPath := "/keycloak/realms/shasta/protocol/openid-connect/token"
  clientId := "admin-client"
  secretName := "admin-client-auth"
  secretNamespace := "default"
  secretKey := "client-secret"
  verifyCertificates := false
  timeoutSeconds := 30

def defaultDistro : String := "sles15"

def Ims.default : Ims := ⟨none, defaultDistro⟩

def Conman.default : Conman := ⟨"cray-conman", none⟩

def Logging.default : Logging := ⟨"info", "pretty", none, "daily"⟩

def default : Config where
  nspace := "services"
  timeouts := .default
  transfers := .default
  tools := .default
  gateway := .default
  ims := .default
  conman := .default
  logging := .default

/-- Seconds after which attempts to check a service end. -/
def Timeouts.forService (t : Timeouts) (key : ServiceKey) : Nat :=
  (t.perService.lookup key.name).getD t.defaultSeconds

/-- A blank text is none. -/
def unlessBlank (text : String) : Option String :=
  let trimmed := Text.trim text
  if trimmed.isEmpty then none else some trimmed

/-- The recipe that has to be there, if one is named. -/
def Ims.expectedRecipe (c : Ims) : Option Recipe := do
  let name ← c.recipeName >>= unlessBlank
  some ⟨name, (unlessBlank c.recipeDistro).getD defaultDistro⟩

/-- The container that has to wait, if there is a reason for it. -/
def Conman.expectation (c : Conman) : Option Checks.Expectation := do
  let reason ← c.expectedWaitingReason
  if Text.blank reason then none else some ⟨c.container, reason⟩

end Config
end ClusterHealth
