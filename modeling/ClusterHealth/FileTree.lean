import ClusterHealth.Text.Affix

/-! Files and directories below a root, found by their paths. -/
namespace ClusterHealth

/-- Names from the root down. -/
abbrev Path := List String

structure FileTree where
  dirs : List Path
  files : List (Path × String)
  /-- Whether absolute paths lead down from the root of the tree; else they lie outside of it. -/
  rooted : Bool := false

namespace FileTree

/-- The names in a path as it is written. -/
def names (path : String) : Path := (Text.splitOn '/' path).filter (!·.isEmpty)

/-- The root, a directory on its own, or one with files below it. -/
def isDir (t : FileTree) (path : Path) : Bool :=
  path.isEmpty || t.dirs.any path.isPrefixOf ||
    t.files.any fun (file, _) => path.isPrefixOf file && path ≠ file

def file? (t : FileTree) (path : Path) : Option String := t.files.lookup path

/-- Follows names from a directory; `none` if the way leaves the tree or does not exist. -/
def walk (t : FileTree) (dir : Path) : Path → Option Path
  | [] => some dir
  | name :: rest =>
    if !t.isDir dir then none
    else if name = "." then t.walk dir rest
    else if name = ".." then if dir.isEmpty then none else t.walk dir.dropLast rest
    else t.walk (dir ++ [name]) rest

/-- Where a path leads from a directory. -/
def locate? (t : FileTree) (dir : Path) (path : String) : Option Path := do
  let absolute := Text.startsWith path "/"
  if path.isEmpty || (absolute && !t.rooted) then none
  let place ← t.walk (if absolute then [] else dir) (names path)
  if path.toList.getLast? = some '/' && !t.isDir place then none else some place

/-- Whether a path leads to a file or a directory. -/
def leadsSomewhere (t : FileTree) (dir : Path) (path : String) : Bool :=
  (t.locate? dir path).any fun place => t.isDir place || (t.file? place).isSome

/-- The text of the file that a path leads to from a directory. -/
def fileAt? (t : FileTree) (dir : Path) (path : String) : Option String := do
  t.file? (← t.locate? dir path)

/-- Directories from `dir` up to the root. -/
def upward (dir : Path) : List Path :=
  (List.range (dir.length + 1)).map fun n => dir.take (dir.length - n)

/-- The text of a file that is looked for in a directory and in all those above it. -/
def search (t : FileTree) (dir : Path) (path : String) : Option String :=
  (upward dir).findSome? (t.fileAt? · path)

end FileTree
end ClusterHealth
