import ClusterHealth.Endpoint
import ClusterHealth.Ending
import ClusterHealth.Failure
import ClusterHealth.Instant
import ClusterHealth.Json.Value
import ClusterHealth.Pod
import ClusterHealth.Target
import ClusterHealth.Transfer.Delivery
import ClusterHealth.Transfer.Mode

/-! Everything that a procedure asks of its surroundings, and the kind of each answer. -/
namespace ClusterHealth

/-- A transfer client bound to one address. -/
structure Session where
  address : String
  deriving DecidableEq

/-- An answer over the network. -/
structure Response where
  status : Nat
  /-- The status with its usual phrase. -/
  statusText : String
  body : String

inductive Request where
  /-- Pods of a name space whose names begin with `start`, in the order of their names. -/
  | listPods (nspace start : String)
  /-- Phase of a claim on storage. -/
  | claimPhase (nspace name : String)
  | configMapField (nspace name field : String)
  | findService (nspace name : String)
  | getJson (path : String)
  | exec (target : Target) (command : String) (args : List String)
  | connect (remote : String)
  | receive (session : Session) (artifact : String) (mode : Transfer.Mode)
  /-- Runs a program of this host without any input. -/
  | launch (program : String) (args : List String)
  | postForm (url : String) (form : List (String × String))
  | fetch (url token : String)
  /-- Creates a file in `dir` whose name has a fresh tag between `lead` and `tail`. -/
  | createFile (dir lead tail : String)
  | writeFile (path : String) (content : Text.Bytes)
  | removeFile (path : String)
  /-- Makes sure that there is a file with its directory, and keeps what is in it. -/
  | openLog (dir name : String)
  | now
  | sleep (seconds : Nat)

/-- What answers a request. -/
abbrev Reply : Request → Type
  | .listPods .. => Except LookupError (List Pod)
  | .claimPhase .. => Except LookupError String
  | .configMapField .. => Except LookupError (Option String)
  | .findService .. => Except LookupError Endpoint
  | .getJson .. => Except ApiError Json
  | .exec .. => Except ExecError String
  | .connect .. => Except TransferError Session
  | .receive .. => Except TransferError Transfer.Delivery
  | .launch .. => Except String Ending
  | .postForm .. | .fetch .. => Except String Response
  /- The fresh tag, if there is a file now. -/
  | .createFile .. => Option String
  | .writeFile .. => Except WriteError Unit
  | .openLog .. => Bool
  | .removeFile .. => Unit
  | .now => Instant
  | .sleep .. => Unit

end ClusterHealth
