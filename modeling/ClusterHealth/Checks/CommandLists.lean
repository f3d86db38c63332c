import ClusterHealth.Procedure

/-! Lists that the command line of a service prints, which have to be arrays. -/
namespace ClusterHealth.Checks

/-- Whether `cray service resource list` prints an array. -/
def listIsArray (cray service resource : String) : Procedure Bool := do
  let subject := [("service", service), ("resource", resource)]
  match ← .request (.exec .host cray [service, resource, "list", "--format", "json"]) with
  | .error e => .reject "CLI command failed" (subject ++ [("error", e.message)])
  | .ok output =>
    match Json.parse? output with
    | some (.array _) => return true
    | some _ => .reject "CLI list output is not a JSON list" subject
    | none =>
      .reject "CLI list output is not valid JSON" (subject ++ [("error", withheld)])

def listsAreArrays (cray service : String) (resources : List String) : Procedure Bool :=
  .forAll resources (listIsArray cray service)

end ClusterHealth.Checks
