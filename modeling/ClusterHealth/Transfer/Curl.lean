import ClusterHealth.HostProcess
import ClusterHealth.SocketAddress
import ClusterHealth.Text.Affix

/-! Transfers by the curl program, which knows one mode only. -/
namespace ClusterHealth.Transfer.Curl

def connect (remote : String) : Except TransferError Session :=
  match SocketAddress.parse? remote with
  | some address => .ok ⟨address.text⟩
  | none =>
    .error (.connect remote "not an address:port pair (invalid socket address syntax)")

def url (session : Session) (artifact : String) : String :=
  s!"tftp://{session.address}/" ++ Text.trimStart '/' artifact

def receive (curl : String) (session : Session) (artifact : String) (mode : Mode) :
    Procedure (Except TransferError Delivery) := do
  if mode ≠ .octet then return .error (.unsupportedMode mode.name)
  let failure (reason : String) := TransferError.receive session.address artifact reason
  match ← .request (.launch curl ["--silent", "--show-error", url session artifact]) with
  | .error reason => return .error (failure s!"failed to launch {curl}: {reason}")
  | .ok ending =>
    if ending.succeeded then return .ok { content := ending.stdout }
    return .error (failure s!"{ending.exit.text} ({HostProcess.complaint ending})")

/-- Answers requests for transfers and passes on all others. -/
def answer (curl : String) : (r : Request) → Procedure (Reply r)
  | .connect remote => return connect remote
  | .receive session artifact mode => receive curl session artifact mode
  | r => .request r

end ClusterHealth.Transfer.Curl
