import ClusterHealth.Config.Basic
import ClusterHealth.Json.Value

/-!
The configuration as a document. What a document leaves out has its default; sections may be written
as lists of their values, too.
-/
namespace ClusterHealth.Config

/-- How the parts of a document are read. -/
structure Reader (β : Type) where
  /-- The values that a section gives, by name. -/
  fields? (names : List String) (value : β) : Option (List (String × β))
  /-- An integer from zero to `bound`. -/
  nat? (bound : Nat) (value : β) : Option Nat
  bool? (value : β) : Option Bool
  text? (value : β) : Option String
  optionalText? (value : β) : Option (Option String)
  texts? (value : β) : Option (List String)
  map? {α : Type} (read : β → Option α) (value : β) : Option (NameMap α)

namespace Reader

def nat64? (r : Reader β) : β → Option Nat := r.nat? (Nat.pow 2 64 - 1)

def nat32? (r : Reader β) : β → Option Nat := r.nat? (Nat.pow 2 32 - 1)

end Reader

/-- The value of a setting, or `default` if it is left out. -/
def setting (fields : List (String × β)) (name : String) (default : α)
    (read : β → Option α) : Option α :=
  match fields.lookup name with
  | some value => read value
  | none => some default

/-! Sections, with what stands for the settings that they leave out. -/

def Timeouts.read? (r : Reader β) (d : Timeouts) (value : β) : Option Timeouts := do
  let s ← r.fields? ["default_secs", "grace_secs", "per_service"] value
  some {
    defaultSeconds := ← setting s "default_secs" d.defaultSeconds r.nat64?
    graceSeconds := ← setting s "grace_secs" d.graceSeconds r.nat64?
    perService := ← setting s "per_service" d.perService (r.map? r.nat64?) }

def Transfers.read? (r : Reader β) (d : Transfers) (value : β) : Option Transfers := do
  let s ← r.fields? ["tftp_services", "artifact_dir", "ipxe_container", "ipxe_pod_prefixes",
    "settings_config_map", "settings_key", "shared_pvc", "temp_dir", "max_consistency_redos",
    "skip_on_master", "mode"] value
  some {
    services := ← setting s "tftp_services" d.services r.texts?
    artifactDir := ← setting s "artifact_dir" d.artifactDir r.text?
    container := ← setting s "ipxe_container" d.container r.text?
    podStems := ← setting s "ipxe_pod_prefixes" d.podStems (r.map? r.text?)
    settingsConfigMap := ← setting s "settings_config_map" d.settingsConfigMap r.text?
    settingsKey := ← setting s "settings_key" d.settingsKey r.text?
    sharedClaim := ← setting s "shared_pvc" d.sharedClaim r.text?
    scratchDir := ← setting s "temp_dir" d.scratchDir r.text?
    maxRedos := ← setting s "max_consistency_redos" d.maxRedos r.nat32?
    skipOnMaster := ← setting s "skip_on_master" d.skipOnMaster r.bool?
    mode := ← setting s "mode" d.mode r.text? }

def Tools.read? (r : Reader β) (d : Tools) (value : β) : Option Tools := do
  let s ← r.fields? ["kubectl", "curl", "md5sum", "cray"] value
  some {
    kubectl := ← setting s "kubectl" d.kubectl r.text?
    curl := ← setting s "curl" d.curl r.text?
    md5sum := ← setting s "md5sum" d.md5sum r.text?
    cray := ← setting s "cray" d.cray r.text? }

def Gateway.read? (r : Reader β) (d : Gateway) (value : β) : Option Gateway := do
  let s ← r.fields? ["base_url", "token_path", "client_id", "secret_name", "secret_namespace",
    "secret_key", "verify_tls", "timeout_secs"] value
  some {
    baseUrl := ← setting s "base_url" d.baseUrl r.text?
    tokenPath := ← setting s "token_path" d.tokenPath r.text?
    clientId := ← setting s "client_id" d.clientId r.text?
    secretName := ← setting s "secret_name" d.secretName r.text?
    secretNamespace := ← setting s "secret_namespace" d.secretNamespace r.text?
    secretKey := ← setting s "secret_key" d.secretKey r.text?
    verifyCertificates := ← setting s "verify_tls" d.verifyCertificates r.bool?
    timeoutSeconds := ← setting s "timeout_secs" d.timeoutSeconds r.nat64? }

def Ims.read? (r : Reader β) (d : Ims) (value : β) : Option Ims := do
  let s ← r.fields? ["recipe_name", "recipe_distro"] value
  some {
    recipeName := ← setting s "recipe_name" d.recipeName r.optionalText?
    recipeDistro := ← setting s "recipe_distro" d.recipeDistro r.text? }

def Conman.read? (r : Reader β) (d : Conman) (value : β) : Option Conman := do
  let s ← r.fields? ["container", "expected_waiting_reason"] value
  some {
    container := ← setting s "container" d.container r.text?
    expectedWaitingReason :=
      ← setting s "expected_waiting_reason" d.expectedWaitingReason r.optionalText? }

def Logging.read? (r : Reader β) (d : Logging) (value : β) : Option Logging := do
  let s ← r.fields? ["level", "format", "log_dir", "rotation"] value
  some {
    level := ← setting s "level" d.level r.text?
    format := ← setting s "format" d.format r.text?
    dir := ← setting s "log_dir" d.dir r.optionalText?
    rotation := ← setting s "rotation" d.rotation r.text? }

/-- The configuration that a document holds, where `d` stands for what it leaves out. -/
def read? (r : Reader β) (d : Config) (value : β) : Option Config := do
  let s ← r.fields? ["namespace", "timeouts", "transfer", "tools", "api", "ims", "conman",
    "logging"] value
  some {
    nspace := ← setting s "namespace" d.nspace r.text?
    timeouts := ← setting s "timeouts" d.timeouts (Timeouts.read? r d.timeouts)
    transfers := ← setting s "transfer" d.transfers (Transfers.read? r d.transfers)
    tools := ← setting s "tools" d.tools (Tools.read? r d.tools)
    gateway := ← setting s "api" d.gateway (Gateway.read? r d.gateway)
    ims := ← setting s "ims" d.ims (Ims.read? r d.ims)
    conman := ← setting s "conman" d.conman (Conman.read? r d.conman)
    logging := ← setting s "logging" d.logging (Logging.read? r d.logging) }

/-! Documents as values. -/

def sectionOf? (names : List String) : Json → Option (List (String × Json))
  | .object fields => some fields
  | .array items => some (names.zip items)
  | _ => none

def natOf? (bound : Nat) : Json → Option Nat
  | .number (.integer n) => if 0 ≤ n ∧ n ≤ bound then some n.toNat else none
  | _ => none

def boolOf? : Json → Option Bool
  | .bool value => some value
  | _ => none

def optionalTextOf? : Json → Option (Option String)
  | .null => some none
  | value => value.string?.map some

def textsOf? (value : Json) : Option (List String) := do (← value.array?).mapM Json.string?

def mapOf? (read : Json → Option α) (value : Json) : Option (NameMap α) := do
  (← value.object?).mapM fun (name, value) => (read value).map (name, ·)

def valueReader : Reader Json where
  fields? := sectionOf?
  nat? := natOf?
  bool? := boolOf?
  text? := Json.string?
  optionalText? := optionalTextOf?
  texts? := textsOf?
  map? := mapOf?

def Logging.ofJson? : Json → Option Logging := read? valueReader .default

def ofJson? : Json → Option Config := read? valueReader default

def optionalJson (text : Option String) : Json := (text.map Json.string).getD .null

def mapJson (write : α → Json) (m : NameMap α) : Json :=
  .ofFields (m.map fun (name, value) => (name, write value))

/-! Sections and their members, in the order in which they are listed. -/

def Timeouts.members (c : Timeouts) : NameMap Json := [
  ("default_secs", .ofNat c.defaultSeconds),
  ("grace_secs", .ofNat c.graceSeconds),
  ("per_service", mapJson .ofNat c.perService)]

def Timeouts.toJson (c : Timeouts) : Json := .ofFields c.members

def Transfers.members (c : Transfers) : NameMap Json := [
  ("tftp_services", .array (c.services.map .string)),
  ("artifact_dir", .string c.artifactDir),
  ("ipxe_container", .string c.container),
  ("ipxe_pod_prefixes", mapJson .string c.podStems),
  ("settings_config_map", .string c.settingsConfigMap),
  ("settings_key", .string c.settingsKey),
  ("shared_pvc", .string c.sharedClaim),
  ("temp_dir", .string c.scratchDir),
  ("max_consistency_redos", .ofNat c.maxRedos),
  ("skip_on_master", .bool c.skipOnMaster),
  ("mode", .string c.mode)]

def Transfers.toJson (c : Transfers) : Json := .ofFields c.members

def Tools.members (c : Tools) : NameMap Json := [
  ("kubectl", .string c.kubectl),
  ("curl", .string c.curl),
  ("md5sum", .string c.md5sum),
  ("cray", .string c.cray)]

def Tools.toJson (c : Tools) : Json := .ofFields c.members

def Gateway.members (c : Gateway) : NameMap Json := [
  ("base_url", .string c.baseUrl),
  ("token_path", .string c.tokenPath),
  ("client_id", .string c.clientId),
  ("secret_name", .string c.secretName),
  ("secret_namespace", .string c.secretNamespace),
  ("secret_key", .string c.secretKey),
  ("verify_tls", .bool c.verifyCertificates),
  ("timeout_secs", .ofNat c.timeoutSeconds)]

def Gateway.toJson (c : Gateway) : Json := .ofFields c.members

def Ims.members (c : Ims) : NameMap Json := [
  ("recipe_name", optionalJson c.recipeName),
  ("recipe_distro", .string c.recipeDistro)]

def Ims.toJson (c : Ims) : Json := .ofFields c.members

def Conman.members (c : Conman) : NameMap Json := [
  ("container", .string c.container),
  ("expected_waiting_reason", optionalJson c.expectedWaitingReason)]

def Conman.toJson (c : Conman) : Json := .ofFields c.members

def Logging.members (c : Logging) : NameMap Json := [
  ("level", .string c.level),
  ("format", .string c.format),
  ("log_dir", optionalJson c.dir),
  ("rotation", .string c.rotation)]

def Logging.toJson (c : Logging) : Json := .ofFields c.members

def members (c : Config) : NameMap Json := [
  ("namespace", .string c.nspace),
  ("timeouts", c.timeouts.toJson),
  ("transfer", c.transfers.toJson),
  ("tools", c.tools.toJson),
  ("api", c.gateway.toJson),
  ("ims", c.ims.toJson),
  ("conman", c.conman.toJson),
  ("logging", c.logging.toJson)]

def toJson (c : Config) : Json := .ofFields c.members

end ClusterHealth.Config
