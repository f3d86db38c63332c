import ClusterHealth.Checks.Cfs
import ClusterHealth.Checks.Conman
import ClusterHealth.Checks.Etcd
import ClusterHealth.Checks.Ims
import ClusterHealth.Checks.Vcs
import ClusterHealth.Proofs.Requests.Api
import ClusterHealth.Proofs.Requests.Pods
import ClusterHealth.Proofs.Roles
import ClusterHealth.Proofs.Runs
import Mathlib.Data.List.Basic

/-! The requests of the checks of services. After the pods are listed, their names decide on all
other requests; no failure leaves one out. -/
namespace ClusterHealth.Checks
open Procedure

variable {nspace : String}

theorem claims_of_names {holder : String → Bool} {claim : String → String} (pods : List Pod) :
    ((pods.filter fun pod => holder pod.name).map fun pod =>
      Request.claimPhase nspace (claim pod.name)) =
    ((pods.map (·.name)).filter holder).map fun name => .claimPhase nspace (claim name) := by
  rw [List.filter_map, List.map_map]
  rfl

namespace EtcdService

/-- The claims of the members of the cluster, whose names begin with `stem`. -/
def memberClaims (stem nspace : String) (names : List String) : List Request :=
  (names.filter (Text.startsWith · stem)).map (.claimPhase nspace)

theorem podOk_makes (s : EtcdService) (pod : Pod) :
    (s.podOk nspace pod).Makes
      (if s.isMember pod then [.claimPhase nspace pod.name] else []) := by
  refine Makes.ends ?_ fun _ => (phaseIn_onlyLogs ..).bind fun _ => onlyLogs_pure _
  split
  · exact claimBound_makes _ _
  · exact (onlyLogs_pure true).makes

theorem memberCountOk_onlyLogs (s : EtcdService) (pods : List Pod) :
    (s.memberCountOk pods).OnlyLogs := by
  unfold memberCountOk
  dsimp only
  split
  · exact onlyLogs_pure true
  · exact onlyLogs_reject ..

theorem podsOk_makesAfter (s : EtcdService) :
    (s.podsOk nspace).MakesAfter (.listPods nspace s.stem) fun reply =>
      memberClaims s.memberStem nspace (listedNames reply) := by
  refine podsByName_makesAfter _ fun pods counted => ?_
  rw [memberClaims, ← claims_of_names]
  refine (forAll_claims_makes (s.podOk_makes)).ends fun healthy => ?_
  exact (s.memberCountOk_onlyLogs pods).bind fun _ => onlyLogs_pure _

end EtcdService

theorem bos_makesAfter : (bos nspace).MakesAfter (.listPods nspace "cray-bos") fun reply =>
    EtcdService.memberClaims "cray-bos-etcd-" nspace (listedNames reply) ++
      Api.bosPaths.map .getJson :=
  EtcdService.bos.podsOk_makesAfter.bind fun _ => Api.bos_makes.ends fun _ => onlyLogs_pure _

theorem crus_makesAfter : (crus nspace).MakesAfter (.listPods nspace "cray-crus") fun reply =>
    EtcdService.memberClaims "cray-crus-etcd-" nspace (listedNames reply) :=
  EtcdService.crus.podsOk_makesAfter

theorem conman_makesAfter (expected : Option Expectation) :
    (conman nspace expected).MakesAfter (.listPods nspace "cray-conman") fun _ =>
      [.claimPhase nspace "cray-conman-data-claim"] := by
  refine podsByName_makesAfter (fun _ => _) fun pods counted => ?_
  refine (onlyLogs_forAll fun pod _ => podHealthy_onlyLogs pod expected).begins fun _ => ?_
  exact (claimBound_makes _ _).ends fun _ => onlyLogs_pure _

namespace Vcs

/-- The claims of the data base. -/
def postgresClaims (nspace : String) (names : List String) : List Request :=
  (names.filter (Text.startsWith · "gitea-vcs-postgres-")).map fun name =>
    .claimPhase nspace s!"pgdata-{name}"

theorem podOk_makes (pod : Pod) :
    (podOk nspace pod).Makes
      (if isPostgres pod then [.claimPhase nspace s!"pgdata-{pod.name}"] else []) := by
  refine Makes.ends ?_ fun _ => (phaseIn_onlyLogs ..).bind fun _ => onlyLogs_pure _
  have hrole : role pod = .postgres ↔ isPostgres pod = true := role_eq_iff (by decide)
  simp only [hrole]
  split
  · exact claimBound_makes _ _
  · exact (onlyLogs_pure true).makes

theorem countsOk_onlyLogs (pods : List Pod) : (countsOk pods).OnlyLogs := by
  refine onlyLogs_ite_bind (onlyLogs_pure true) (onlyLogs_reject ..) fun passed => ?_
  exact .when (onlyLogs_logged ..) fun _ => onlyLogs_pure passed

end Vcs

theorem vcs_makesAfter : (vcs nspace).MakesAfter (.listPods nspace "gitea-vcs") fun reply =>
    .claimPhase nspace "gitea-vcs-data-claim" ::
      Vcs.postgresClaims nspace (listedNames reply) := by
  refine podsByName_makesAfter (fun names => _ :: Vcs.postgresClaims nspace names) fun pods _ => ?_
  rw [Vcs.postgresClaims, ← claims_of_names]
  refine (claimBound_makes _ _).bind fun bound => ?_
  refine (forAll_claims_makes Vcs.podOk_makes).ends fun healthy => ?_
  exact (Vcs.countsOk_onlyLogs pods).bind fun _ => onlyLogs_pure _

namespace Ims

theorem podsOk_makesAfter :
    (podsOk nspace).MakesAfter (.listPods nspace "cray-ims") fun _ => [] :=
  podsByName_makesAfter (fun _ => _) fun pods _ =>
    ((podsHealthy_onlyLogs pods).bind fun _ => onlyLogs_pure _).makes

theorem singleValue_onlyLogs (pod : String) (container : Container) (key : String) :
    (singleValue pod container key).OnlyLogs := by
  unfold singleValue
  split
  · exact (onlyLogs_logged ..).bind fun _ => onlyLogs_pure none
  · split
    · exact (onlyLogs_logged ..).bind fun _ => onlyLogs_pure none
    · split
      · exact onlyLogs_pure _
      · exact (onlyLogs_logged ..).bind fun _ => onlyLogs_pure none

theorem recipeOfPod_onlyLogs (pod : Pod) : (recipeOfPod pod).OnlyLogs := by
  unfold recipeOfPod
  split
  · exact (onlyLogs_logged ..).bind fun _ => onlyLogs_pure none
  · refine (singleValue_onlyLogs ..).bind fun _ => (singleValue_onlyLogs ..).bind fun _ => ?_
    exact onlyLogs_pure _
  · exact (onlyLogs_logged ..).bind fun _ => onlyLogs_pure none

theorem unfinishedPodOk_onlyLogs (recipe : Option Recipe) (pod : Pod) :
    (unfinishedPodOk recipe pod).OnlyLogs := by
  unfold unfinishedPodOk
  split
  · refine (recipeOfPod_onlyLogs pod).bind fun built? => ?_
    cases built? with
    | none => exact onlyLogs_pure false
    | some built =>
      dsimp only
      split
      · exact onlyLogs_reject ..
      · exact .when (onlyLogs_logged ..) fun _ =>
          (onlyLogs_logged ..).bind fun _ => onlyLogs_pure true
  · exact (onlyLogs_logged ..).bind fun _ => onlyLogs_pure true

theorem initPodsOk_makes (recipe : Option Recipe) :
    (initPodsOk nspace recipe).Makes [.listPods nspace "cray-init-recipe"] := by
  refine (podsByName_makes _ _ _).ends fun (pods, listed) => ?_
  cases listed with
  | false => exact onlyLogs_pure false
  | true =>
    simp only [Bool.not_true, Bool.false_eq_true, if_false]
    split
    · exact (onlyLogs_logged ..).bind fun _ => onlyLogs_pure true
    · exact onlyLogs_forAll fun pod _ => unfinishedPodOk_onlyLogs recipe pod

end Ims

theorem ims_makesAfter (cray : String) (recipe : Option Recipe) :
    (ims nspace cray recipe false).MakesAfter (.listPods nspace "cray-ims") fun _ =>
      .claimPhase nspace "cray-ims-data-claim" :: .listPods nspace "cray-init-recipe" ::
        Api.imsPaths.map .getJson := by
  refine Ims.podsOk_makesAfter.bind fun _ => (claimBound_makes _ _).bind fun _ => ?_
  refine (Ims.initPodsOk_makes recipe).bind fun _ => (Api.ims_makes recipe).ends fun _ => ?_
  exact onlyLogs_pure _

/-- The commands come last, whatever the verdict before. -/
theorem ims_commands (cray : String) (recipe : Option Recipe) :
    ims nspace cray recipe true =
      both (ims nspace cray recipe false) (listsAreArrays cray "ims" Ims.commandLists) := by
  unfold ims both
  simp only [LawfulMonad.bind_assoc, pure_bind, Bool.and_true, if_true, Bool.false_eq_true,
    if_false]

namespace Cfs

theorem podOk_onlyLogs (pod : Pod) : (podOk pod).OnlyLogs := by
  unfold podOk
  split
  · exact onlyLogs_pure true
  · split
    · exact (onlyLogs_logged ..).bind fun _ => onlyLogs_pure true
    · exact phaseIn_onlyLogs ..

theorem roleFilled_onlyLogs (pods : List Pod) (role : Role) : (roleFilled pods role).OnlyLogs := by
  unfold roleFilled
  split
  · exact onlyLogs_pure true
  · exact onlyLogs_reject ..

theorem podsOk_makesAfter :
    (podsOk nspace).MakesAfter (.listPods nspace "cray-cfs") fun _ => [] := by
  refine podsByName_makesAfter (fun _ => []) fun pods counted => OnlyLogs.makes ?_
  refine (onlyLogs_forAll fun pod _ => podOk_onlyLogs pod).bind fun healthy => ?_
  refine (onlyLogs_forAll fun role _ => roleFilled_onlyLogs pods role).bind fun filled => ?_
  exact onlyLogs_pure _

end Cfs

/-- The requests follow what the lists hold, but all of them look something up. -/
theorem cfs_asks (cray : String) : (cfs nspace cray false).Asks Request.Looks := by
  refine (Cfs.podsOk_makesAfter.asks trivial fun _ => List.forall_mem_nil _).bind fun _ => ?_
  exact Api.cfs_asks.bind fun _ => asks_pure _

theorem cfs_commands (cray : String) :
    cfs nspace cray true =
      both (cfs nspace cray false) (listsAreArrays cray "cfs" Cfs.commandLists) := by
  unfold cfs both
  simp only [LawfulMonad.bind_assoc, pure_bind, Bool.and_true, if_true, Bool.false_eq_true,
    if_false]

end ClusterHealth.Checks
