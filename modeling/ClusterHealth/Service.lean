import ClusterHealth.Text.Blank

/-! The services that can be checked, and the check behind each. -/
namespace ClusterHealth

/-- Checks; two of them answer to two service keys each. -/
inductive Check where
  | bos
  | cfs
  | conman
  | crus
  | ims
  | bootArtifacts
  | vcs
  deriving DecidableEq, Repr

inductive ServiceKey where
  | bos
  | cfs
  | conman
  | crus
  | gitea
  | ims
  | ipxe
  | tftp
  | vcs
  deriving DecidableEq, Repr, Inhabited

namespace ServiceKey

/-- Every key, in the order of their names. -/
def all : List ServiceKey := [.bos, .cfs, .conman, .crus, .gitea, .ims, .ipxe, .tftp, .vcs]

def name : ServiceKey → String
  | .bos => "bos"
  | .cfs => "cfs"
  | .conman => "conman"
  | .crus => "crus"
  | .gitea => "gitea"
  | .ims => "ims"
  | .ipxe => "ipxe"
  | .tftp => "tftp"
  | .vcs => "vcs"

def check : ServiceKey → Check
  | .bos => .bos
  | .cfs => .cfs
  | .conman => .conman
  | .crus => .crus
  | .ims => .ims
  | .ipxe | .tftp => .bootArtifacts
  | .vcs | .gitea => .vcs

/-- The names of some keys with a space between them. -/
def names (keys : List ServiceKey) : String := " ".intercalate (keys.map name)

def supported : String := names all

/-- The key that `text` names, apart from white space around it. -/
def parse? (text : String) : Option ServiceKey := all.find? (·.name == Text.trim text)

end ServiceKey

/-- Name of a check in the list of services. -/
def Check.title : Check → String
  | .bos => "bos"
  | .cfs => "cfs"
  | .conman => "conman"
  | .crus => "crus"
  | .ims => "ims"
  | .bootArtifacts => "ipxe/tftp"
  | .vcs => "vcs/gitea"

end ClusterHealth
