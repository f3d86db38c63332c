/-! Log entries: what a check finds wrong. -/
namespace ClusterHealth.Log

inductive Level where
  | warn
  | error
  deriving DecidableEq

def Level.name : Level → String
  | .warn => "WARN"
  | .error => "ERROR"

/-- A message with named values. -/
structure Entry where
  level : Level
  message : String
  fields : List (String × String)
  deriving DecidableEq

end ClusterHealth.Log
