import ClusterHealth.Failure
import ClusterHealth.Text.Blank
import ClusterHealth.Yaml.Scalars

/-! The settings of the boot artifact service: for which architectures it builds which artifacts. -/
namespace ClusterHealth.Checks

inductive Architecture where
  | x86
  | aarch64
  deriving DecidableEq

namespace Architecture

/-- Every architecture, the last in the order of their names first. -/
def all : List Architecture := [.x86, .aarch64]

def name : Architecture → String
  | .x86 => "x86-64"
  | .aarch64 => "aarch64"

/-- The setting that names the main artifact. -/
def artifactField : Architecture → String
  | .x86 => "cray_ipxe_binary_name"
  | .aarch64 => "cray_ipxe_aarch64_binary_name"

end Architecture

structure BootSettings where
  buildX86 : Bool
  buildAarch64 : Bool
  artifact : Option String
  debugArtifact : Option String
  aarch64Artifact : Option String
  aarch64DebugArtifact : Option String
  deriving DecidableEq

namespace BootSettings
open Yaml (Node)

/-- The value of the setting `key`, which is given once at most. -/
def single? (key : String) (entries : List (Node × Node)) : Option (Option Node) :=
  match entries.filter (·.1.text? == some key) with
  | [] => some none
  | [(_, value)] => some (some value)
  | _ => none

def bool? (key : String) (default : Bool) (entries : List (Node × Node)) : Option Bool := do
  match ← single? key entries with
  | none => some default
  | some value => value.bool?

def text? (key : String) (entries : List (Node × Node)) : Option (Option String) := do
  match ← single? key entries with
  | none => some none
  | some value => value.optionalText?

/-- Settings among the entries of a mapping with scalar keys; others are passed over. -/
def ofEntries? (entries : List (Node × Node)) : Option BootSettings := do
  if !entries.all (·.1.text?.isSome) then none
  some {
    buildX86 := ← bool? "cray_ipxe_build_x86" true entries
    buildAarch64 := ← bool? "cray_ipxe_build_aarch64" false entries
    artifact := ← text? Architecture.x86.artifactField entries
    debugArtifact := ← text? "cray_ipxe_debug_binary_name" entries
    aarch64Artifact := ← text? Architecture.aarch64.artifactField entries
    aarch64DebugArtifact := ← text? "cray_ipxe_aarch64_debug_binary_name" entries }

/-- The settings that a document holds; nothing at all counts as an empty document. -/
def parse? (text : String) : Option BootSettings := do
  let document ← Yaml.parse? text
  let entries ← document.root.entries?
  ofEntries? (entries.map fun (key, value) => (document.resolve key, document.resolve value))

def parse (text source : String) : Except ConfigurationError BootSettings :=
  match parse? text with
  | some settings => .ok settings
  | none => .error (.malformed source withheld)

def builds (s : BootSettings) : Architecture → Bool
  | .x86 => s.buildX86
  | .aarch64 => s.buildAarch64

def mainArtifact (s : BootSettings) : Architecture → Option String
  | .x86 => s.artifact
  | .aarch64 => s.aarch64Artifact

def debugArtifactOf (s : BootSettings) : Architecture → Option String
  | .x86 => s.debugArtifact
  | .aarch64 => s.aarch64DebugArtifact

/-- A blank name is none. -/
def named (name : Option String) : Option String := name.filter (!Text.blank ·)

/-- What is built for one architecture: the main artifact, which has to be named, and the one for
debugging. -/
def artifactsFor (s : BootSettings) (configMap : String) (arch : Architecture) :
    Except ConfigurationError (Architecture × List String) :=
  match named (s.mainArtifact arch) with
  | none => .error (.missingConfigMapField configMap arch.artifactField)
  | some name => .ok (arch, name :: (named (s.debugArtifactOf arch)).toList)

/-- What is built for every architecture that is built for, in the order of their names. -/
def artifacts (s : BootSettings) (configMap : String) :
    Except ConfigurationError (List (Architecture × List String)) :=
  ((Architecture.all.filter s.builds).mapM (s.artifactsFor configMap)).map List.reverse

end BootSettings
end ClusterHealth.Checks
