import ClusterHealth.CommandLine.Help
import ClusterHealth.Config.Loading
import ClusterHealth.Gateway
import ClusterHealth.Kubectl.Queries
import ClusterHealth.Log.Settings
import ClusterHealth.Report.Services
import ClusterHealth.Transfer.Curl

/-!
Runs of the command line: the arguments are read, the configuration is loaded, the log is set up,
and the command is carried out with the programs of this host.
-/
namespace ClusterHealth.CommandLine

/-- What a run prints, the log apart, and the code that it ends with. -/
structure Conclusion where
  code : Nat
  stdout : String := ""
  stderr : String := ""
  deriving DecidableEq

namespace Conclusion

/-- Code of a run whose arguments cannot be used. -/
def usageCode : Nat := 2

/-- Code of a run that breaks off. -/
def crashCode : Nat := 101

def shown (passed : Bool) (text : String) : Conclusion where
  code := if passed then 0 else 1
  stdout := text ++ "\n"

def ofRefusal (r : Refusal) : Conclusion :=
  match r, r.complaint? with
  | .displayHelp level, _ => shown true level.help
  | .displayVersion, _ => shown true versionText
  | _, some complaint => { code := usageCode, stderr := s!"error: {complaint}\n" }
  | _, none => { code := usageCode, stderr := Level.top.help ++ "\n" }

/-- A failure before anything is checked, with its causes. -/
def fatal (json : Bool) (message : String) (causes : List String) : Conclusion where
  code := 1
  stderr :=
    let text := if json then
        (Json.ofFields [("error", .string message),
          ("causes", .array (causes.map Json.string))]).pretty
      else "Error: " ++ ": ".intercalate (message :: causes)
    text ++ "\n"

def crashed (reason : String) : Conclusion where
  code := crashCode
  stderr := reason ++ "\n"

end Conclusion

/-- Answers every request that programs of this host, run with a configuration, can answer. -/
def onHost (c : Config) (p : Procedure α) : Procedure α :=
  let kubectl := c.tools.kubectl
  let p := p.interpret (Kubectl.answer kubectl)
  let p := (p.interpretFrom (Gateway.answer c.gateway kubectl) none).bind fun (value, _) =>
    .done value
  let p := p.interpret (HostProcess.answer kubectl)
  p.interpret (Transfer.Curl.answer c.tools.curl)

/-- Checks services. -/
def test (c : Config) (json : Bool) (runId : String) (services : List ServiceKey)
    (options : RunOptions) : Procedure Conclusion :=
  match Harness.ofConfig c with
  | .error e => return .fatal json "Failed to set up service checks" [e.message]
  | .ok harness => do
    match ← onHost c (harness.run runId services options) with
    | .error _ => return .crashed "the time to stop at is out of range"
    | .ok report =>
      return .shown report.allPassed (if json then report.toJson.pretty else report.text)

/-- Lists services. -/
def list (c : Config) (json : Bool) : Conclusion :=
  let entries := ServiceEntry.all c.timeouts
  .shown true (if json then (ServiceEntry.listJson entries).pretty
    else (ServiceEntry.table entries).text)

/-- Opens the log file, if one is wanted. -/
def openLog (s : Log.Settings) : Procedure Bool := do
  match s.dir with
  | none => return true
  | some dir => .request (.openLog dir (s.rotation.fileName (← .request .now)))

/-- Carries out a command with a configuration. -/
def carryOut (c : Config) (args : Arguments) (runId : String) : Procedure Conclusion := do
  let settings := Log.Settings.ofConfig c.logging
  match Log.Threshold.parse? settings.level with
  | none => return .fatal args.json (Log.Threshold.unknown settings.level) []
  | some _ =>
    if !(← openLog settings) then return .crashed "the log file cannot be opened"
    match args.command with
    | .services => return list c args.json
    | .test services options => test c args.json runId services options

/-- Where a run finds its configuration. -/
structure Surroundings where
  tree : FileTree
  /-- The working directory. -/
  dir : Path
  env : Config.Environment

def execute (s : Surroundings) (args : Arguments) (runId : String) : Procedure Conclusion :=
  match Config.load s.tree s.dir s.env args.config with
  | .error .brokenVariable => return .crashed Config.LoadError.brokenVariable.message
  | .error e => return .fatal args.json e.message e.causes
  | .ok c => carryOut c args runId

/-- A run with the arguments behind the name of the program. -/
def run (s : Surroundings) (args : List String) (runId : String) : Procedure Conclusion :=
  match Arguments.parse args with
  | .error refusal => return .ofRefusal refusal
  | .ok args => execute s args runId

end ClusterHealth.CommandLine
