import ClusterHealth.Json.Value

/-! Laying one document over another. -/
namespace ClusterHealth.Config

mutual

/-- Objects are combined field by field; anything else replaces what is under it. -/
def overlay : Json → Json → Json
  | .object under, .object above => .object (overlayFields under above)
  | _, above => above

def overlayFields (under : List (String × Json)) : List (String × Json) → List (String × Json)
  | [] => under
  | (key, value) :: rest =>
    let combined := match under.lookup key with
      | some old => overlay old value
      | none => value
    overlayFields (Json.insertField key combined under) rest

end

end ClusterHealth.Config
