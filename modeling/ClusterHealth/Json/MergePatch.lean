import ClusterHealth.Json.Value

/-! Patches that are documents themselves: objects are merged, and a null removes a field. -/
namespace ClusterHealth.Json

def removeField (key : String) (fields : List (String × Json)) : List (String × Json) :=
  fields.filter (·.1 != key)

mutual

/-- What `patch` makes of a document. -/
def patched (document : Json) : Json → Json
  | .object changes => .object (patchedFields (document.object?.getD []) changes)
  | patch => patch

def patchedFields (fields : List (String × Json)) :
    List (String × Json) → List (String × Json)
  | [] => fields
  | (key, .null) :: rest => patchedFields (removeField key fields) rest
  | (key, change) :: rest =>
    let old := (fields.lookup key).getD .null
    patchedFields (insertField key (patched old change) fields) rest

end

end ClusterHealth.Json
