/-! Addresses and ports of a service, and how much of them can be used. -/
namespace ClusterHealth

structure Endpoint where
  clusterAddress : Option String
  externalAddress : Option String
  /-- The first declared port, zero if there is none. -/
  port : Int
  extraPorts : List Int
  deriving DecidableEq

/-- An empty address is none. -/
def usable (address : Option String) : Option String := address.filter (!·.isEmpty)

namespace Endpoint

def cluster? (e : Endpoint) : Option String := usable e.clusterAddress

def external? (e : Endpoint) : Option String := usable e.externalAddress

/-- An address with the first port. -/
def remote (e : Endpoint) (address : String) : String := s!"{address}:{e.port}"

/-- Addresses to transfer from, with their labels. -/
def targets (e : Endpoint) : List (String × String) :=
  (e.cluster?.map fun address => ("cluster", e.remote address)).toList ++
    (e.external?.map fun address => ("external", e.remote address)).toList

def invalidExtraPorts (e : Endpoint) : List Int := e.extraPorts.filter (· ≤ 0)

end Endpoint

inductive Coverage where
  | full
  | partly
  | nothing
  deriving DecidableEq

/-- Nothing is usable without a port and an address; everything is with both addresses and valid
ports only. -/
def Endpoint.coverage (e : Endpoint) : Coverage :=
  if e.port ≤ 0 || (e.cluster?.isNone && e.external?.isNone) then .nothing
  else if e.cluster?.isSome && e.external?.isSome && e.invalidExtraPorts.isEmpty then .full
  else .partly

def Coverage.name : Coverage → String
  | .full => "full"
  | .partly => "partial"
  | .nothing => "none"

end ClusterHealth
