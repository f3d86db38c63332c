import ClusterHealth.Rehearsal.Attempts
import ClusterHealth.Rehearsal.Shell.Running
import ClusterHealth.Transfer.Artifact

/-! Answers from a machine. It runs programs and keeps files, and it has no network. -/
namespace ClusterHealth.Rehearsal.Machine
open Text (Bytes)

def createFile (m : Machine) (dir name : String) : Bool × Machine :=
  let isUsable := name.utf8ByteSize ≤ nameBound && !name.toList.contains '\x00'
  if m.isDir (if dir.isEmpty then "." else dir) && isUsable then
    (true, { m with scratch := (Transfer.joined dir name, []) :: m.scratch })
  else (false, m)

def writeFile (m : Machine) (path : String) (content : Bytes) :
    Except WriteError Unit × Machine :=
  let scratch := m.scratch.map fun (file, old) => (file, if file = path then content else old)
  (if (m.scratch.lookup path).isSome then .ok () else .error .file, { m with scratch })

def removeFile (m : Machine) (path : String) : Machine :=
  { m with scratch := m.scratch.filter (·.1 ≠ path) }

/-- Where a path leads from a directory, also if nothing is there. -/
def normalized (dir : Path) (path : String) : Path :=
  (FileTree.names path).foldl (fun place name =>
    if name = "." then place else if name = ".." then place.dropLast else place ++ [name]) dir

/-- A log file can be opened unless a file stands where a directory has to be. Only those below the
working directory are kept. -/
def openLog (m : Machine) (dir name : String) : Bool × Machine :=
  if Text.startsWith dir "/" then (true, m)
  else
    let place := normalized m.dir dir
    let file := place ++ [name]
    if m.tree.files.any fun (other, _) => other.isPrefixOf place then (false, m)
    else if m.tree.isDir file then (false, m)
    else if (m.tree.file? file).isSome then (true, m)
    else (true, { m with tree := { m.tree with files := (file, "") :: m.tree.files } })

/-- The tag that a scratch file gets. -/
def tag : String := "XXXXXX"

def answer : (r : Request) → Machine → Reply r × Machine
  | .launch program args, m => ((m.launch program args).mapError Obstacle.message, m)
  | .createFile dir lead tail, m =>
    let (created, m) := m.createFile dir (lead ++ tag ++ tail)
    (if created then some tag else none, m)
  | .writeFile path content, m => m.writeFile path content
  | .removeFile path, m => ((), m.removeFile path)
  | .openLog dir name, m => m.openLog dir name
  | .now, m => (m.clock, m)
  | .sleep seconds, m => ((), { m with clock := m.clock.addSeconds seconds })
  | r, m => (refusal r, m)

end ClusterHealth.Rehearsal.Machine
