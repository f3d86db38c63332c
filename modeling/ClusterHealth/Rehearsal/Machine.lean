import ClusterHealth.FileTree
import ClusterHealth.Instant
import ClusterHealth.Text.Utf8

/-! A machine to rehearse on: its working directory with what is in it, scratch files, a clock. -/
namespace ClusterHealth.Rehearsal
open Text (Bytes)

/-- What stands in a place. -/
inductive Entry where
  | dir
  /-- Another name of a directory. -/
  | link (target : Path)
  | text (content : String)
  | program (name : String)
  /-- A file that is neither read nor run. -/
  | data
  deriving DecidableEq

namespace Entry

def isDir : Entry → Bool
  | .dir => true
  | _ => false

/-- The directories that are there besides those of a working directory. -/
def outerDirs : List Path := [
  [], ["boot"], ["dev"], ["etc"], ["home"], ["media"], ["mnt"], ["opt"], ["proc"], ["root"],
  ["run"], ["srv"], ["sys"], ["tmp"], ["usr"], ["usr", "bin"], ["usr", "lib"], ["usr", "local"],
  ["usr", "local", "bin"], ["usr", "sbin"], ["usr", "share"], ["var"], ["var", "log"],
  ["var", "tmp"]]

def outerFiles : List Path := [
  ["dev", "null"], ["dev", "zero"], ["etc", "hostname"], ["etc", "hosts"], ["etc", "passwd"]]

def links : List (Path × Path) := [
  (["bin"], ["usr", "bin"]), (["lib"], ["usr", "lib"]), (["sbin"], ["usr", "sbin"])]

def programNames : List String := [
  "[", "basename", "bash", "cat", "dash", "date", "echo", "env", "false", "head", "hostname", "ls",
  "md5sum", "printf", "seq", "sh", "sleep", "tail", "test", "tr", "true", "wc", "yes"]

/-- What stands outside of a working directory. -/
def outer? (place : Path) : Option Entry :=
  if outerDirs.contains place then some .dir
  else if outerFiles.contains place then some .data
  else
    match links.lookup place, place with
    | some target, _ => some (.link target)
    | none, ["usr", "bin", name] =>
      if programNames.contains name then some (.program name) else none
    | none, _ => none

end Entry

/-- Why a path leads nowhere. -/
inductive PathFault where
  | missing
  | notDirectory
  | tooLong
  deriving DecidableEq

structure Machine where
  tree : FileTree
  dir : Path
  env : List (String × String)
  clock : Instant
  /-- Files outside of the working directory, by their paths. -/
  scratch : List (String × Bytes) := []

namespace Machine

/-- File names are no longer than this many bytes. -/
def nameBound : Nat := 255

/-- Paths are shorter than this many bytes. -/
def pathBound : Nat := 4096

def treeEntry? (m : Machine) (place : Path) : Option Entry :=
  match m.tree.file? place with
  | some text => some (.text text)
  | none => if m.tree.isDir place then some .dir else none

/-- What stands in a place below the root of all places, or else below that of the tree. -/
def entry? (m : Machine) (absolute : Bool) (place : Path) : Option Entry :=
  let inside := if absolute && !m.tree.rooted then none else m.treeEntry? place
  let outside := if absolute || m.tree.rooted then Entry.outer? place else none
  inside <|> outside

/-- Follows names from a place. Above a root that is not that of all places there are only further
directories. -/
def follow (m : Machine) (absolute : Bool) (place : Path) : List String → Except PathFault Entry
  | [] => (m.entry? absolute place).elim (.error .missing) .ok
  | name :: rest =>
    match m.entry? absolute place with
    | none => .error .missing
    | some .dir =>
      if nameBound < name.utf8ByteSize then .error .tooLong
      else if name = "." then m.follow absolute place rest
      else if name = ".." then
        if place.isEmpty && !absolute && !m.tree.rooted then
          if rest.all fun name => name = "." || name = ".." then .ok .dir else .error .missing
        else m.follow absolute place.dropLast rest
      else
        match m.entry? absolute (place ++ [name]) with
        | some (.link target) => m.follow absolute target rest
        | _ => m.follow absolute (place ++ [name]) rest
    | some _ => .error .notDirectory

/-- Finds what a path leads to. A slash at its end wants a directory. -/
def locate (m : Machine) (path : String) : Except PathFault Entry :=
  let absolute := Text.startsWith path "/"
  let names := FileTree.names path ++ if path.toList.getLast? = some '/' then ["."] else []
  if path.isEmpty then .error .missing
  else if pathBound ≤ path.utf8ByteSize then .error .tooLong
  else m.follow absolute (if absolute then [] else m.dir) names

def isDir (m : Machine) (path : String) : Bool :=
  match m.locate path with
  | .ok entry => entry.isDir
  | .error _ => false

def exists? (m : Machine) (path : String) : Bool := (m.locate path).toOption.isSome

/-- Whether a file may be run: a program, or a script that says what reads it. -/
def runs (m : Machine) (path : String) : Bool :=
  match m.locate path with
  | .ok (.program _) => true
  | .ok (.text content) => Text.startsWith content "#!"
  | _ => false

/-- Why a shell cannot write to a path. -/
def unwritable? (m : Machine) (path : String) : Option String :=
  let parents := (FileTree.names path).dropLast
  let parent := (if Text.startsWith path "/" then "/" else "./") ++ "/".intercalate parents
  if m.isDir path then some "Is a directory"
  else if m.isDir parent then none
  else some "Directory nonexistent"

/-- The text of a file below the working directory. -/
def treeText? (m : Machine) (path : String) : Option String :=
  match m.locate path with
  | .ok (.text content) => some content
  | _ => none

/-- The content of the file at a path. -/
def file? (m : Machine) (path : String) : Option Bytes :=
  if path = "/dev/null" then some []
  else m.scratch.lookup path <|> (m.treeText? path).map Text.encodeUtf8

end Machine
end ClusterHealth.Rehearsal
