import ClusterHealth.Rehearsal.Machine
import ClusterHealth.Rehearsal.Programs

/-! Which program of a machine a name stands for. -/
namespace ClusterHealth.Rehearsal

/-- Why a program does not start. -/
inductive Obstacle where
  | path (fault : PathFault)
  | denied
  /-- A file that may be run does not say what reads it. -/
  | format
  /-- An argument is too long. -/
  | argument
  /-- A text that goes to the program has a character with the number zero. -/
  | zeroCharacter
  deriving DecidableEq

namespace Obstacle

def message : Obstacle → String
  | .path .missing => "No such file or directory (os error 2)"
  | .path .notDirectory => "Not a directory (os error 20)"
  | .path .tooLong => "File name too long (os error 36)"
  | .denied => "Permission denied (os error 13)"
  | .format => "Exec format error (os error 8)"
  | .argument => "Argument list too long (os error 7)"
  | .zeroCharacter => "nul byte found in provided data"

end Obstacle

inductive Executable where
  | program (run : Machine → List String → Text.Bytes → Ending)
  | shell
  /-- Runs a program with changed variables. -/
  | env
  /-- A file whose first line names the program that reads it, perhaps with an argument. -/
  | script (interpreter : String) (argument : List String)

namespace Executable

def shells : List String := ["sh", "dash", "bash"]

def named? (name : String) : Option Executable :=
  if shells.contains name then some .shell
  else if name = "env" then some .env
  else (Program.table.lookup name).map .program

/-- Reads the line behind the mark that a script begins with. -/
def ofLine (line : List Char) : Except Obstacle Executable :=
  let isSpace (c : Char) := c = ' ' || c = '\t'
  let line := (line.dropWhile isSpace).reverse.dropWhile isSpace
  match line.reverse.span (!isSpace ·) with
  | ([], _) => .error .format
  | (name, rest) =>
    let argument := rest.dropWhile isSpace
    .ok (.script (.ofList name) (if argument.isEmpty then [] else [.ofList argument]))

def ofFile (text : String) : Except Obstacle Executable :=
  match Text.after? text "#!" with
  | some rest => ofLine (rest.toList.takeWhile (· != '\n'))
  | none => .error .denied

/-- Finds a program by its path. -/
def atPath (m : Machine) (path : String) : Except Obstacle Executable :=
  match m.locate path with
  | .error fault => .error (.path fault)
  | .ok (.text content) => ofFile content
  | .ok (.program name) => (named? name).elim (.error (.path .missing)) .ok
  | .ok _ => .error .denied

/-- A name with a slash is a path; any other one is that of a program. -/
def find (m : Machine) (name : String) : Except Obstacle Executable :=
  if name.toList.contains '/' then atPath m name
  else if Machine.nameBound < name.utf8ByteSize then .error (.path .tooLong)
  else if name = "." || name = ".." then .error .denied
  else (named? name).elim (.error (.path .missing)) .ok

end Executable
end ClusterHealth.Rehearsal
