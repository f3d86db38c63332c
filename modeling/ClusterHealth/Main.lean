import ClusterHealth.CommandLine.Execution
import ClusterHealth.Rehearsal.Host
import Std.Time.DateTime.Timestamp

/-!
The command line, rehearsed in the working directory: programs are the scripts that lie there and
those of the rehearsal's machine, and pauses take no time.
-/
namespace ClusterHealth.Rehearsal
open CommandLine

def readText? (path : String) : IO (Option String) := do
  try return some (← IO.FS.readFile path) catch _ => return none

def pathText (path : Path) : String := "/" ++ "/".intercalate path

/-- Paths of the files that may be read: those in the directory, and the configuration, which may
lie in a directory above as well. -/
def candidates (dir : Path) (names : List String) (args : List String) : List Path :=
  let extra := match Arguments.parse args with
    | .ok args => args.config.toList
    | .error _ => []
  let settings := (FileTree.upward dir).flatMap fun above =>
    (Config.projectFile :: extra).map (Machine.normalized above)
  let absolute := (extra.filter (Text.startsWith · "/")).map FileTree.names
  names.map (fun name => dir ++ [name]) ++ settings ++ absolute

def readTree (dir : Path) (names args : List String) : IO FileTree := do
  let files ← (candidates dir names args).eraseDups.filterMapM fun path => do
    return (← readText? (pathText path)).map (path, ·)
  return { dirs := [dir], files, rooted := true }

def readVariables : IO (List (String × String)) :=
  Config.variableNames.filterMapM fun name => do
    return (← IO.getEnv name).map (name, ·)

def readMachine (args : List String) : IO Machine := do
  let current ← IO.currentDir
  let dir := FileTree.names current.toString
  let names := (← current.readDir).toList.map (·.fileName)
  let millis := (← Std.Time.Timestamp.now).toMillisecondsSinceUnixEpoch
  return {
    tree := ← readTree dir names args
    dir
    env := ← readVariables
    clock := ⟨millis.toInt⟩ }

/-- Eight random hexadecimal digits. -/
def freshRunId : IO String := do
  let digits ← (List.replicate 8 16).mapM fun bound => IO.rand 0 (bound - 1)
  return .ofList (digits.map Nat.digitChar)

def entryLine (e : Log.Entry) : String :=
  " ".intercalate (e.level.name :: e.message :: e.fields.map fun (name, text) => s!"{name}={text}")

/-- Appends lines to the log files that were opened. -/
def writeLog (events : List Event) (lines : List String) : IO Unit :=
  events.forM fun
    | .exchanged (.openLog dir name) true => do
      IO.FS.createDirAll dir
      let file ← IO.FS.Handle.mk (Transfer.joined dir name) .append
      lines.forM file.putStrLn
    | _ => return

def rehearse (args : List String) : IO UInt32 := do
  let m ← readMachine args
  let runId ← freshRunId
  let p := CommandLine.run ⟨m.tree, m.dir, m.env⟩ args runId
  let done := p.run Machine.answer m
  let lines := (Event.entries done.events).map entryLine
  writeLog done.events lines
  lines.forM IO.eprintln
  IO.eprint done.value.stderr
  IO.print done.value.stdout
  return .ofNat done.value.code

end ClusterHealth.Rehearsal

def main (args : List String) : IO UInt32 := ClusterHealth.Rehearsal.rehearse args
