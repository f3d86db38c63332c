/-! Patterns of names: a star stands for any text and a question mark for any character. -/
namespace ClusterHealth.Rehearsal.Shell

/-- A character; a quoted one stands for itself. -/
structure Mark where
  char : Char
  quoted : Bool
  deriving DecidableEq

def matchesPattern : List Mark → List Char → Bool
  | [], text => text.isEmpty
  | ⟨'*', false⟩ :: rest, text =>
    (List.range (text.length + 1)).any fun n => matchesPattern rest (text.drop n)
  | ⟨'?', false⟩ :: rest, _ :: text => matchesPattern rest text
  | ⟨c, _⟩ :: rest, d :: text => c = d && matchesPattern rest text
  | _ :: _, [] => false

end ClusterHealth.Rehearsal.Shell
