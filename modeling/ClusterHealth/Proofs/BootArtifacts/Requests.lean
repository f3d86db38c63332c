import ClusterHealth.Checks.BootArtifacts
import ClusterHealth.Proofs.Requests.Pods

/-! The requests that are made before transfers, whatever they are answered: all of them look
something up, and the servers and their claim are asked for last. -/
namespace ClusterHealth.Checks.BootArtifacts
open Procedure

variable (b : BootArtifacts)

theorem serversOk_makes :
    b.serversOk.Makes
      [.listPods b.nspace "cray-tftp", .claimPhase b.nspace b.settings.sharedClaim] := by
  refine (podsByName_makes _ _ _).bind fun (pods, counted) => ?_
  have hjudged (healthy : Bool) : (claimBound b.nspace b.settings.sharedClaim >>= fun bound =>
      (pure (healthy && bound) : Procedure Bool)).Makes
        [.claimPhase b.nspace b.settings.sharedClaim] :=
    (claimBound_makes _ _).ends fun _ => onlyLogs_pure _
  cases counted with
  | false => exact hjudged false
  | true => exact (podsHealthy_onlyLogs pods).begins hjudged

theorem expected_asks : b.expected.Asks Request.Looks := by
  refine Asks.bind ?_ fun settings => ?_
  · refine asks_request_bind trivial fun reply => ?_
    rcases reply with e | _ | text
    · exact asks_pure _
    · exact asks_pure _
    · exact asks_pure _
  · dsimp only
    split
    · exact (onlyLogs_logged ..).asks.bind fun _ => asks_pure _
    · exact (onlyLogs_logged ..).asks.bind fun _ => asks_pure _
    · exact asks_pure _

theorem readDigest_asks (command : String) (target : Target) (path : String) :
    (Transfer.readDigest command target path).Asks Request.Looks := by
  refine asks_request_bind trivial fun reply => ?_
  cases reply with
  | error e => exact (onlyLogs_logged ..).asks.bind fun _ => asks_pure _
  | ok output =>
    dsimp only
    split
    · exact (onlyLogs_logged ..).asks.bind fun _ => asks_pure _
    · exact asks_pure _

theorem containerReady_asks (pod : String) (artifacts : List String) :
    (b.containerReady pod artifacts).Asks Request.Looks := by
  refine asks_request_bind trivial fun reply => ?_
  cases reply with
  | error e => exact (onlyLogs_reject ..).asks
  | ok date =>
    refine asks_forAll fun name _ => asks_request_bind trivial fun listed => ?_
    cases listed with
    | error e => exact (onlyLogs_reject ..).asks
    | ok listing => exact (readDigest_asks _ _ _).bind fun _ => asks_pure _

theorem builder_asks (arch : Architecture) (artifacts : List String) :
    (b.builder arch artifacts).Asks Request.Looks := by
  unfold builder
  split
  · exact (onlyLogs_logged ..).asks.bind fun _ => asks_pure _
  · rename_i stem hstem
    have hpods : (podsByName b.nspace stem (.exactly 1)).Asks Request.Looks :=
      (podsByName_makes _ _ _).asks (by simp [Request.Looks])
    refine hpods.bind fun (pods, counted) => (podsHealthy_onlyLogs pods).asks.bind fun _ => ?_
    split
    · exact (b.containerReady_asks _ _).bind fun _ => asks_pure _
    · exact asks_pure _

theorem builders_asks (build : List (Architecture × List String)) :
    (b.builders build).Asks Request.Looks := by
  induction build with
  | nil => exact asks_pure _
  | cons item rest ih =>
    exact (b.builder_asks item.1 item.2).bind fun _ => ih.bind fun _ => asks_pure _

end ClusterHealth.Checks.BootArtifacts
