import ClusterHealth.Rehearsal.World
import ClusterHealth.Transfer.Verify

/-! Rehearsals of single transfers between two given digests. -/
namespace ClusterHealth.Rehearsal

structure FetchReport where
  fetched : Except TransferError Nat
  /-- Size of the scratch file behind the transfer. -/
  size : Nat
  file : String
  /-- Whether both digests agree. -/
  stable : Bool
  /-- Whether the scratch file is still there in the end. -/
  left : Bool

/-- Connects, makes a scratch file and transfers an artifact into it. -/
def World.fetch (w : World) (v : Transfer.Verifier) (remote artifact : String) (before : Digest)
    (after : Option Digest) : Except TransferError FetchReport × World :=
  let opened := (Procedure.request (.connect remote)).run answer w
  match opened.value with
  | .error e => (.error e, opened.state)
  | .ok session =>
    let created := (v.createScratch artifact).run answer opened.state
    match created.value with
    | .error e => (.error e, created.state)
    | .ok file =>
      let done := (v.fetch session remote artifact file).run answer created.state
      let size := ((done.state.scratchFile? file).getD []).length
      let removed := (Procedure.request (.removeFile file)).run answer done.state
      let left := (removed.state.scratchFile? file).isSome
      (.ok ⟨done.value, size, file, after = some before, left⟩, removed.state)

end ClusterHealth.Rehearsal
