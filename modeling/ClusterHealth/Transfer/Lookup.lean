import ClusterHealth.Procedure

/-! Looking up the endpoint of a transfer service. -/
namespace ClusterHealth.Transfer

/-- Logs every address that `endpoint` lacks, and every port after the first. -/
def reportEndpoint (nspace service : String) (endpoint : Endpoint) : Procedure Unit := do
  let subject := [("service", service), ("namespace", nspace)]
  if endpoint.cluster?.isNone then .error "Unable to determine cluster IP" subject
  if endpoint.external?.isNone then .error "Unable to determine external IP" subject
  if !endpoint.extraPorts.isEmpty then
    .warn "More than one port defined for service"
      (subject ++ [("count", toString (endpoint.extraPorts.length + 1))])
  endpoint.extraPorts.forM fun port =>
    let fields := subject ++ [("port", toString port)]
    if 0 < port then .warn "Extra port" fields else .error "Invalid extra port" fields

/-- Finds a service whose first port is usable; it may lack addresses. -/
def lookUp (nspace service : String) : Procedure (Except LookupError Endpoint) := do
  let report (message : String) (e : LookupError) :=
    Procedure.error message
      [("service", service), ("namespace", nspace), ("error", e.message)]
  match ← .request (.findService nspace service) with
  | .error e =>
    report "Service lookup failed" e
    return .error e
  | .ok endpoint =>
    if endpoint.port ≤ 0 then
      let e := .invalidPort service endpoint.port
      report "Cannot run file transfer test without valid port number" e
      return .error e
    reportEndpoint nspace service endpoint
    return .ok endpoint

end ClusterHealth.Transfer
