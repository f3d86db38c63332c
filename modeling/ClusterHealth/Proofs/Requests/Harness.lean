import ClusterHealth.Proofs.BootArtifacts.Requests
import ClusterHealth.Proofs.Diagnosis
import ClusterHealth.Proofs.Transfer.Service

/-! No check pauses by itself. -/
namespace ClusterHealth
open Procedure

theorem Request.Looks.awake {r : Request} (h : r.Looks) : r.Awake := by
  rintro seconds rfl
  exact h

theorem Request.Transfers.awake {r : Request} (h : r.Transfers) : r.Awake := by
  rintro seconds rfl
  exact h

namespace Transfer.Verifier
variable (v : Verifier)

theorem verifyEndpoint_awake (remote : String) (artifact : Artifact) :
    (v.verifyEndpoint remote artifact).Asks Request.Awake := by
  refine (v.verifyEndpoint_always remote artifact).mono fun events value h => ?_
  obtain ⟨rest, hrequests, hrest⟩ := h.requests_eq
  rw [hrequests]
  exact List.forall_mem_cons.2 ⟨nofun, fun r hr => (hrest r hr).awake⟩

theorem verifyService_awake (service : String) (artifact : Artifact) :
    (v.verifyService service artifact).Asks Request.Awake := by
  have hlookUp : (lookUp v.nspace service).Asks Request.Awake := by
    refine (lookUp_always v.nspace service).mono fun events _ h => ?_
    obtain ⟨reply, entries, rfl⟩ := h
    rw [Event.requests_exchanged, Event.requests_map_logged]
    exact List.forall_mem_singleton.2 nofun
  refine hlookUp.bind fun found => ?_
  cases found with
  | error e => exact asks_pure false
  | ok endpoint =>
    dsimp only
    split
    · exact (onlyLogs_reject ..).asks
    · exact (asks_forAll fun target _ => v.verifyEndpoint_awake _ artifact).bind
        fun _ => asks_pure _

end Transfer.Verifier

namespace Checks.BootArtifacts

theorem check_awake (b : BootArtifacts) : b.check.Asks Request.Awake := by
  have hlooks {r : Request} : r.Looks → r.Awake := Request.Looks.awake
  have hserved : b.serversOk.Asks Request.Awake :=
    b.serversOk_makes.asks (by simp [Request.Awake])
  have htransfers (builders : List Builder) : (b.transfers builders).Asks Request.Awake :=
    asks_forAll fun service _ => asks_forAll fun builder _ => asks_forAll fun name _ =>
      b.verifier.verifyService_awake service _
  refine (b.expected_asks.weaken fun _ => hlooks).bind fun (build, known) => ?_
  refine ((b.builders_asks build).weaken fun _ => hlooks).bind fun (builders, built) => ?_
  refine hserved.bind fun served => ?_
  split
  · exact asks_pure false
  · split
    · refine Asks.bind ?_ fun master => ?_
      · refine asks_request_bind nofun fun reply => ?_
        cases reply with
        | ok name => exact asks_pure _
        | error e => exact (onlyLogs_logged ..).asks.bind fun _ => asks_pure none
      · rcases master with _ | _ | _
        · exact asks_pure false
        · exact htransfers builders
        · exact asks_pure true
    · exact htransfers builders

end Checks.BootArtifacts

namespace Harness
variable (h : Harness)

theorem inquiries_looks (names : List String) (check : Check) :
    ∀ r ∈ h.inquiries names check, r.Looks := by
  have hpaths (paths : List String) : ∀ r ∈ paths.map Request.getJson, r.Looks :=
    List.forall_mem_map.2 fun _ _ => trivial
  cases check with
  | bos => exact List.forall_mem_append.2 ⟨List.forall_mem_map.2 fun _ _ => trivial, hpaths _⟩
  | conman => exact List.forall_mem_singleton.2 trivial
  | crus => exact List.forall_mem_map.2 fun _ _ => trivial
  | ims => exact List.forall_mem_cons.2 ⟨trivial, List.forall_mem_cons.2 ⟨trivial, hpaths _⟩⟩
  | vcs => exact List.forall_mem_cons.2 ⟨trivial, List.forall_mem_map.2 fun _ _ => trivial⟩
  | cfs | bootArtifacts => exact List.forall_mem_nil _

theorem commands_looks (check : Check) : ∀ r ∈ h.commands check, r.Looks := by
  cases check with
  | cfs | ims => exact List.forall_mem_map.2 fun _ _ => trivial
  | bos | conman | crus | vcs | bootArtifacts => exact List.forall_mem_nil _

/-- Without command lists. -/
theorem check_awake_plain (check : Check) : (h.check check false).Asks Request.Awake := by
  have hstem {stem : String} (hcheck : check.stem? = some stem) :
      (h.check check false).Asks Request.Awake :=
    ((h.check_makesAfter hcheck).asks trivial fun _ => h.inquiries_looks _ check).weaken
      fun _ => Request.Looks.awake
  cases check with
  | bos | conman | crus | ims | vcs => exact hstem rfl
  | cfs => exact (Checks.cfs_asks _).weaken fun _ => Request.Looks.awake
  | bootArtifacts => exact h.bootArtifacts.check_awake

theorem check_awake (check : Check) (includeCommands : Bool) :
    (h.check check includeCommands).Asks Request.Awake := by
  cases includeCommands with
  | false => exact h.check_awake_plain check
  | true =>
    by_cases hcheck : check = .cfs ∨ check = .ims
    · obtain ⟨commands, hboth, hmakes, -⟩ := h.check_commands hcheck
      rw [hboth]
      have hcommands : commands.Asks Request.Awake :=
        hmakes.asks fun r hr => (h.commands_looks check r hr).awake
      exact (h.check_awake_plain check).bind fun _ => hcommands.bind fun _ => asks_pure _
    · rw [h.check_includeCommands (not_or.1 hcheck)]
      exact h.check_awake_plain check

end Harness
end ClusterHealth
