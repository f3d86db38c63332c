import ClusterHealth.Text.Quoted

/-! What can go wrong, one type per part of the system, and how each cause is worded. -/
namespace ClusterHealth

/-- Stands in a message for what a reader of documents, or the file system, found wrong. -/
def withheld : String := "<detail>"

/-- A configuration or a settings document is malformed or incomplete. -/
inductive ConfigurationError where
  | unknownServiceKey (key : String)
  | invalidDefaultTimeout (seconds : Nat)
  | invalidLogLevel (level : String)
  | invalidLogFormat (format : String)
  | emptyNamespace
  | invalidArtifactDir (dir : String)
  | invalidMaxRedos (redos : Nat)
  | invalidTransferMode (mode : String)
  | invalidApiUrl (url : String)
  | missingConfigMapField (configMap field : String)
  | malformed (source reason : String)
  deriving DecidableEq

def ConfigurationError.message : ConfigurationError → String
  | .unknownServiceKey key => s!"Unknown service key in timeouts.per_service: {key}"
  | .invalidDefaultTimeout seconds =>
    s!"Invalid default timeout: {seconds}. Must be at least 1 second"
  | .invalidLogLevel level =>
    s!"Invalid log level: {level}. Must be one of: trace, debug, info, warn, error"
  | .invalidLogFormat format => s!"Invalid log format: {format}. Must be one of: json, pretty"
  | .emptyNamespace => "Namespace cannot be empty"
  | .invalidArtifactDir dir =>
    s!"Artifact directory must be an absolute path, got {Text.quoted dir}"
  | .invalidMaxRedos redos => s!"Invalid max_consistency_redos: {redos}. Cannot be 0"
  | .invalidTransferMode mode =>
    s!"Invalid transfer mode: {mode}. Must be one of: octet, netascii"
  | .invalidApiUrl url =>
    s!"API base URL must start with http:// or https://, got {Text.quoted url}"
  | .missingConfigMapField configMap field => s!"Field {field} missing from config map {configMap}"
  | .malformed source reason => s!"Unable to decode {source}: {reason}"

/-- A cluster object cannot be found or used. -/
inductive LookupError where
  | serviceNotFound (nspace service reason : String)
  | invalidPort (service : String) (port : Int)
  | queryFailed (reason : String)
  deriving DecidableEq

def LookupError.message : LookupError → String
  | .serviceNotFound nspace service reason =>
    s!"Service {service} not found in namespace {nspace}: {reason}"
  | .invalidPort service port => s!"Invalid port ({port}) for service {service}"
  | .queryFailed reason => s!"Cluster query failed: {reason}"

/-- An object of the kind `what` came in a form that cannot be read. -/
def LookupError.undecodable (what : String) : LookupError :=
  .queryFailed s!"Unable to decode {what}: {withheld}"

/-- An artifact was not delivered. -/
inductive TransferError where
  | connect (remote reason : String)
  | receive (remote artifact reason : String)
  | unsupportedMode (mode : String)
  | localFile (path : String)
  | contentUnstable (artifact : String) (redos : Nat)
  deriving DecidableEq

def TransferError.message : TransferError → String
  | .connect remote reason => s!"Unable to initialize transfer client for {remote}: {reason}"
  | .receive remote artifact reason => s!"Error receiving {artifact} from {remote}: {reason}"
  | .unsupportedMode mode =>
    s!"Transfer mode {Text.quoted mode} is not supported by this client"
  | .localFile path => s!"Local file error for {path}: {withheld}"
  | .contentUnstable artifact redos =>
    s!"Remote {artifact} kept changing: {redos} consistency redos without a stable digest"

/-- Some content is not in its file. -/
inductive WriteError where
  /-- The file cannot be opened, or the content does not reach the disk. -/
  | file
  /-- The content cannot be written to the open file. -/
  | content (reason : String)
  deriving DecidableEq

/-- The output of the digest command has another form than expected. -/
inductive DigestError where
  | empty (path : String)
  | mismatch (path output : String)
  deriving DecidableEq

def DigestError.message : DigestError → String
  | .empty path => s!"Blank output from digest command for {path}"
  | .mismatch path output =>
    s!"Digest command output for {path} does not match the expected format: {Text.quoted output}"

/-- A text does not name a service. -/
inductive DispatchError where
  | unknownService (key supported : String)
  deriving DecidableEq

def DispatchError.message : DispatchError → String
  | .unknownService key supported =>
    s!"Invalid service ({key}); supported services are: {supported}"

/-- A request to the service gateway failed or gave an unusable body. -/
inductive ApiError where
  | token (reason : String)
  | request (path reason : String)
  | status (path : String) (code : Nat)
  | decode (path reason : String)
  deriving DecidableEq

def ApiError.message : ApiError → String
  | .token reason => s!"Unable to obtain access token: {reason}"
  | .request path reason => s!"GET {path} failed: {reason}"
  | .status path code => s!"GET {path} returned status {code}"
  | .decode path reason => s!"Unable to decode response from {path}: {reason}"

/-- A command could not be run to a successful end. -/
inductive ExecError where
  | launch (command reason : String)
  | failed (command status stderr : String)
  deriving DecidableEq

def ExecError.message : ExecError → String
  | .launch command reason => s!"Failed to launch {command}: {reason}"
  | .failed command status stderr => s!"{command} exited with {status}: {stderr}"

/-- Causes that a transfer or a digest can fail for. -/
inductive ProbeError where
  | exec (cause : ExecError)
  | digest (cause : DigestError)
  | transfer (cause : TransferError)
  deriving DecidableEq

def ProbeError.message : ProbeError → String
  | .exec cause => cause.message
  | .digest cause => cause.message
  | .transfer cause => cause.message

end ClusterHealth
