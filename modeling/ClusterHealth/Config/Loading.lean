import ClusterHealth.Config.Environment
import ClusterHealth.Config.Fields
import ClusterHealth.Config.Validation
import ClusterHealth.FileTree
import ClusterHealth.Yaml.Scalars

/-! Loading the configuration: documents laid over each other, the defaults undermost. -/
namespace ClusterHealth.Config

inductive LoadError where
  | invalid (cause : ConfigurationError)
  /-- A file named for loading is not there. -/
  | noSuchFile (path : String)
  /-- The layers do not make up a configuration. -/
  | layers
  /-- A single file does not make up a configuration. -/
  | file (path : String)
  /-- A variable cannot be used at all, and the run breaks off. -/
  | brokenVariable
  deriving DecidableEq

/-- What lies behind a failure and is not part of its message. -/
def LoadError.causes : LoadError → List String
  | .invalid _ | .noSuchFile _ | .brokenVariable => []
  | .layers | .file _ => [withheld]

def LoadError.message : LoadError → String
  | .invalid cause => cause.message
  | .noSuchFile path => s!"Config file {path} does not exist"
  | .layers => "Failed to extract configuration from figment"
  | .file path => s!"Failed to load config from {path}"
  | .brokenVariable => "an environment variable cannot be used"

/-- The file in the working directory, or above it, that is always read. -/
def projectFile : String := "cmsdev.yaml"

/-- Settings in a file; one that is not there has none. -/
def fileLayer? (tree : FileTree) (dir : Path) (path : String) : Option Json :=
  match tree.search dir path with
  | some text => Yaml.objectOf? text
  | none => some (.object [])

/-- The defaults. Scratch files lie where the environment says. -/
def defaultIn (env : Environment) : Config :=
  let dir := (env.lookup "TMPDIR").getD Transfers.default.scratchDir
  { default with transfers := { Transfers.default with scratchDir := dir } }

/-- Defaults under the given layers, the last one uppermost. -/
def ofLayers? (env : Environment) (layers : List Json) : Option Config :=
  let d := defaultIn env
  read? valueReader d (layers.foldl overlay d.toJson)

mutual

/-- The ways to everything in a document. -/
def paths : Json → List (List String)
  | .object fields => fieldPaths fields
  | _ => []

def fieldPaths : List (String × Json) → List (List String)
  | [] => []
  | (key, value) :: rest => [key] :: (paths value).map (key :: ·) ++ fieldPaths rest

end

/-- The variables that override settings, by the names that they usually have. -/
def variableNames : List String :=
  let settings := (paths default.toJson).map fun path =>
    (Environment.settingLead ++ "__".intercalate path).toUpper
  "TMPDIR" :: "IMS_RECIPE_NAME" :: "IMS_RECIPE_DISTRO" :: settings

def validated (c : Config) : Except LoadError Config :=
  match c.validate with
  | .error e => .error (.invalid e)
  | .ok () => .ok c

/-- The configuration of a run in the directory `dir`, with an additional file if one is named.
Recipe variables lie over the files, and all other variables over them. -/
def load (tree : FileTree) (dir : Path) (env : Environment) (extra : Option String) :
    Except LoadError Config := do
  if let some path := extra then
    if !tree.leadsSomewhere dir path then throw (.noSuchFile path)
  let some overrides := [Environment.recipePath?, Environment.settingPath?].mapM (env.layer? ·)
    | throw .brokenVariable
  let files := (projectFile :: extra.toList).mapM (fileLayer? tree dir)
  let some c := files.bind fun files => ofLayers? env (files ++ overrides)
    | throw .layers
  validated c

/-- The configuration in one file. Variables do not override it. -/
def loadFile (tree : FileTree) (dir : Path) (env : Environment) (path : String) :
    Except LoadError Config := do
  let some c := (fileLayer? tree dir path).bind fun file => ofLayers? env [file]
    | throw (.file path)
  validated c

end ClusterHealth.Config
