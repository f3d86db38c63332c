import ClusterHealth.Proofs.Candor.Api
import ClusterHealth.Proofs.Candor.Pods

/-! The checks of services that have pods, an interface and commands. -/
namespace ClusterHealth.Checks
open Procedure

variable {tolerated : Log.Entry → Prop} {nspace : String}

theorem bos_candid : (bos nspace).Candid tolerated id :=
  candid_both (EtcdService.podsOk_candid _) Api.bos_candid

theorem crus_candid : (crus nspace).Candid tolerated id := EtcdService.podsOk_candid _

theorem cfs_candid (cray : String) (includeCommands : Bool) :
    (cfs nspace cray includeCommands).Candid tolerated id := by
  refine Cfs.podsOk_candid.bind fun pods => Api.cfs_candid.bind fun api => ?_
  refine accounts_ite_bind (fun _ => Accounts.frame (listsAreArrays_candid ..))
    (fun _ => Accounts.frame candid_true) fun commands => ?_
  exact accounts_pure (by grind) (by grind)

namespace Ims

theorem singleValue_candid (pod : String) (container : Container) (key : String) :
    (singleValue pod container key).Candid tolerated Option.isSome := by
  unfold singleValue
  split
  · exact accounts_fail Bool.false_ne_true
  · split
    · exact accounts_fail Bool.false_ne_true
    · split
      · exact accounts_pure (fun _ => trivial) Bool.noConfusion
      · exact accounts_fail Bool.false_ne_true

theorem recipeOfPod_candid (pod : Pod) : (recipeOfPod pod).Candid tolerated Option.isSome := by
  unfold recipeOfPod
  split
  · exact accounts_fail Bool.false_ne_true
  · refine (singleValue_candid ..).bind fun name? => (singleValue_candid ..).bind fun distro? => ?_
    cases name? with
    | none => exact accounts_pure Bool.noConfusion fun _ => .inl (.inr rfl)
    | some name =>
      cases distro? with
      | none => exact accounts_pure Bool.noConfusion fun _ => .inr rfl
      | some distro => exact accounts_pure (fun _ => ⟨⟨trivial, rfl⟩, rfl⟩) Bool.noConfusion
  · exact accounts_fail Bool.false_ne_true

theorem ownPodOk_candid (expected : Recipe) (pod : Pod) :
    (ownPodOk expected pod).Candid tolerated id := by
  refine (recipeOfPod_candid pod).bind fun built? => ?_
  cases built? with
  | none => exact accounts_false (.inr rfl)
  | some built =>
    dsimp only
    split
    · exact accounts_reject ..
    · exact accounts_warn_when (accounts_warn_bind (accounts_true ⟨trivial, rfl⟩))

theorem unfinishedPodOk_candid (recipe : Option Recipe) (pod : Pod) :
    (unfinishedPodOk recipe pod).Candid tolerated id := by
  unfold unfinishedPodOk
  split
  · exact ownPodOk_candid ..
  · exact accounts_warn_bind candid_true

theorem initPodsOk_candid (recipe : Option Recipe) :
    (initPodsOk nspace recipe).Candid tolerated id := by
  refine (podsByName_candid ..).bind fun (pods, listed) => ?_
  cases listed with
  | false => exact accounts_false (.inr rfl)
  | true =>
    simp only [Bool.not_true, Bool.false_eq_true, if_false]
    split
    · exact accounts_warn_bind (accounts_true ⟨trivial, trivial⟩)
    · exact (candid_forAll fun pod _ => unfinishedPodOk_candid recipe pod).behind ⟨trivial, trivial⟩

theorem podsOk_candid : (podsOk nspace).Candid tolerated id := by
  refine (podsByName_candid ..).bind fun (pods, counted) => ?_
  refine (podsHealthy_candid pods).bind fun healthy => accounts_pure (by grind) (by grind)

end Ims

theorem ims_candid (cray : String) (recipe : Option Recipe) (includeCommands : Bool) :
    (ims nspace cray recipe includeCommands).Candid Api.Informational id := by
  refine Ims.podsOk_candid.bind fun pods => (claimBound_candid ..).bind fun bound => ?_
  refine (Ims.initPodsOk_candid recipe).bind fun inits => (Api.ims_candid recipe).bind fun api => ?_
  refine accounts_ite_bind (fun _ => Accounts.frame (listsAreArrays_candid ..))
    (fun _ => Accounts.frame candid_true) fun commands => ?_
  exact accounts_pure (by grind) (by grind)

end ClusterHealth.Checks
