import ClusterHealth.Checks.BootArtifacts
import ClusterHealth.Proofs.Candor.Pods
import ClusterHealth.Proofs.Candor.Transfer

/-! The check of boot artifacts, whose transfers may log an address that a service lacks. -/
namespace ClusterHealth.Checks.BootArtifacts
open Procedure

variable (b : BootArtifacts) {tolerated : Log.Entry → Prop}

theorem artifactReady_candid (target : Target) (name : String) :
    (b.artifactReady target name).Candid tolerated id := by
  refine accounts_request_bind fun reply => ?_
  cases reply with
  | error e => exact accounts_reject ..
  | ok listing =>
    exact (Transfer.readDigest_candid ..).bind fun _ => accounts_pure (⟨trivial, ·⟩) .inr

theorem containerReady_candid (pod : String) (artifacts : List String) :
    (b.containerReady pod artifacts).Candid tolerated id := by
  refine accounts_request_bind fun reply => ?_
  cases reply with
  | error e => exact accounts_reject ..
  | ok date => exact candid_forAll fun name _ => b.artifactReady_candid _ name

theorem loadSettings_tolerable : b.loadSettings.Tolerable tolerated := by
  refine accounts_request_bind fun reply => ?_
  rcases reply with e | _ | text
  · exact tolerable_pure _
  · exact tolerable_pure _
  · exact tolerable_pure _

theorem expected_candid : b.expected.Candid tolerated Prod.snd := by
  refine b.loadSettings_tolerable.bind fun settings => ?_
  dsimp only
  split
  · exact accounts_fail Bool.false_ne_true
  · exact accounts_fail Bool.false_ne_true
  · exact accounts_pure (fun _ => trivial) Bool.noConfusion

theorem builder_candid (arch : Architecture) (artifacts : List String) :
    (b.builder arch artifacts).Candid tolerated Prod.snd := by
  unfold builder
  split
  · exact accounts_fail Bool.false_ne_true
  · refine (podsByName_accounts ..).bind fun (pods, counted) => ?_
    refine (podsHealthy_candid pods).bind fun healthy => ?_
    dsimp only
    split
    · refine (b.containerReady_candid ..).bind fun ready => ?_
      exact accounts_pure (by grind) (by grind)
    · rename_i hnone
      refine accounts_pure Bool.noConfusion fun _ => .inl ?_
      -- One pod that was counted is there to be looked at.
      cases counted with
      | false => exact .inl rfl
      | true =>
        cases pods with
        | nil => exact .inr (by decide)
        | cons pod rest => exact absurd rfl (hnone pod rest rfl)

theorem builders_candid (build : List (Architecture × List String)) :
    (b.builders build).Candid tolerated Prod.snd := by
  induction build with
  | nil => exact accounts_pure (fun _ => trivial) Bool.noConfusion
  | cons item rest ih =>
    refine (b.builder_candid ..).bind fun (first, passed) => ih.bind fun (others, allPassed) => ?_
    exact accounts_pure (by grind) (by grind)

theorem serversOk_candid : b.serversOk.Candid tolerated id := by
  refine (podsByName_candid ..).bind fun (pods, counted) => ?_
  refine accounts_ite_bind (fun hcounted => (podsHealthy_candid pods).behind ⟨trivial, hcounted⟩)
    (fun hcounted => accounts_false (.inr (Bool.eq_false_iff.2 hcounted)))
    fun healthy => ?_
  exact (claimBound_candid ..).bind fun bound => accounts_pure (by grind) (by grind)

theorem onMaster_candid : onMaster.Candid tolerated Option.isSome := by
  refine accounts_request_bind fun reply => ?_
  cases reply with
  | ok name => exact accounts_pure (fun _ => trivial) Bool.noConfusion
  | error e => exact accounts_fail Bool.false_ne_true

theorem transfers_candid (builders : List Builder) :
    (b.transfers builders).Candid (Transfer.LacksAddress b.nspace) id := by
  refine candid_forAll fun service _ => candid_forAll fun builder _ => ?_
  exact candid_forAll fun name _ => b.verifier.verifyService_candid _ service

theorem check_candid : b.check.Candid (Transfer.LacksAddress b.nspace) id := by
  refine b.expected_candid.bind fun (build, known) => ?_
  refine (b.builders_candid build).bind fun (builders, built) => ?_
  refine b.serversOk_candid.bind fun served => ?_
  dsimp only
  split
  · exact accounts_false (by grind)
  · have hpassed : ((True ∧ known = true) ∧ built = true) ∧ id served = true := by grind
    split
    · refine onMaster_candid.bind fun master? => ?_
      rcases master? with _ | _ | _
      · exact accounts_false (.inr rfl)
      · exact (b.transfers_candid builders).behind ⟨hpassed, rfl⟩
      · exact accounts_true ⟨hpassed, rfl⟩
    · exact (b.transfers_candid builders).behind hpassed

end ClusterHealth.Checks.BootArtifacts
