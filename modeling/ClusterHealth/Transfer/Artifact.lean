import ClusterHealth.Target
import ClusterHealth.Text.Affix

/-! Artifacts that a transfer service offers, and the scratch files that they are received into. -/
namespace ClusterHealth.Transfer

structure Artifact where
  /-- What the transfer service is asked for. -/
  name : String
  /-- Where it lies on `source`, which can take its digest. -/
  path : String
  source : Target
  deriving DecidableEq

/-- The path of `name` in a directory that may be written with slashes behind it. -/
def pathIn (dir name : String) : String := Text.trimEnd '/' dir ++ "/" ++ name

def Artifact.inDir (name dir : String) (source : Target) : Artifact :=
  ⟨name, pathIn dir name, source⟩

/-- The last part of an artifact's name between slashes that is not empty. -/
def stem (artifact : String) : String :=
  ((Text.splitOn '/' artifact).reverse.find? (!·.isEmpty)).getD "artifact"

/-- What stands before the fresh tag in the name of a scratch file. -/
def scratchLead : String := "cmsdev-ipxetftp-"

/-- What stands behind it. -/
def scratchTail (artifact : String) : String := s!"-{stem artifact}.tmp"

/-- Appends a name to the path of a directory. -/
def joined (dir name : String) : String :=
  if dir.isEmpty || dir.toList.getLast? == some '/' then dir ++ name else s!"{dir}/{name}"

def scratchPath (dir tag artifact : String) : String :=
  joined dir (scratchLead ++ tag ++ scratchTail artifact)

end ClusterHealth.Transfer
