import ClusterHealth.Config.Basic
import ClusterHealth.Instant
import ClusterHealth.Text.Lowercase

/-! How the log is written. -/
namespace ClusterHealth.Log

inductive Format where
  | json
  | pretty
  deriving DecidableEq

def Format.name : Format → String
  | .json => "json"
  | .pretty => "pretty"

/-- When a new log file is begun. -/
inductive Rotation where
  | daily
  | hourly
  | never
  deriving DecidableEq

def Rotation.name : Rotation → String
  | .daily => "daily"
  | .hourly => "hourly"
  | .never => "never"

structure Settings where
  level : String
  format : Format
  dir : Option String
  rotation : Rotation
  deriving DecidableEq

/-- Any text but one names the pretty format. -/
def Format.parse : String → Format
  | "json" => .json
  | _ => .pretty

/-- A text that names no rotation stands for the daily one. -/
def Rotation.parse : String → Rotation
  | "hourly" => .hourly
  | "never" => .never
  | _ => .daily

def Settings.ofConfig (c : Config.Logging) : Settings :=
  ⟨c.level, .parse c.format, c.dir, .parse c.rotation⟩

/-- Name of the log file that is begun at a time. -/
def Rotation.fileName (r : Rotation) (t : Instant) : String :=
  let day := t.dateText
  match r with
  | .daily => s!"cmsdev.log.{day}"
  | .hourly => s!"cmsdev.log.{day}-{t.hourText}"
  | .never => "cmsdev.log"

/-- How much is logged. -/
inductive Threshold where
  | trace
  | debug
  | info
  | warn
  | error
  deriving DecidableEq

/-- Thresholds are named in letters of either case. -/
def Threshold.parse? (text : String) : Option Threshold :=
  match Text.lowercase text with
  | "trace" => some .trace
  | "debug" => some .debug
  | "info" => some .info
  | "warn" => some .warn
  | "error" => some .error
  | _ => none

/-- Says that `text` names no threshold. -/
def Threshold.unknown (text : String) : String := s!"Invalid log level: {text}"

end ClusterHealth.Log
