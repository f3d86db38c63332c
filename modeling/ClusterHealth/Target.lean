/-! Where a command runs. -/
namespace ClusterHealth

inductive Target where
  | host
  | container (nspace pod name : String)
  deriving DecidableEq

def Target.text : Target → String
  | .host => "local host"
  | .container nspace pod name => s!"{nspace}/{pod}/{name}"

end ClusterHealth
