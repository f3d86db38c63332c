import ClusterHealth.Text.Lowercase

/-! Transfer modes. -/
namespace ClusterHealth.Transfer

inductive Mode where
  | octet
  | netascii
  deriving DecidableEq

namespace Mode

def name : Mode → String
  | .octet => "octet"
  | .netascii => "netascii"

/-- Modes are named in letters of either case. -/
def parse? (text : String) : Option Mode :=
  match Text.lowercase text with
  | "octet" => some .octet
  | "netascii" => some .netascii
  | _ => none

/-- Says that `text` names no mode. -/
def unknown (text : String) : String := s!"unknown transfer mode: {Text.lowercase text}"

end Mode
end ClusterHealth.Transfer
