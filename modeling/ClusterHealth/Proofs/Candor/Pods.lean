import ClusterHealth.Checks.Cfs
import ClusterHealth.Checks.Conman
import ClusterHealth.Checks.Etcd
import ClusterHealth.Checks.Vcs
import ClusterHealth.Proofs.Candor

/-! Judgements on pods, claims and lists log an error exactly if they fail. -/
namespace ClusterHealth.Checks
open Procedure

variable {tolerated : Log.Entry → Prop} {nspace : String}

theorem miscount_alarms (start : String) (count : PodCount) (found : Nat) :
    (miscount start count found).Alarms := by
  unfold miscount
  dsimp only
  split
  · split
    · exact alarms_error ..
    · split
      · exact alarms_error ..
      · exact alarms_error ..
  · exact alarms_error ..

/-- Pods that are as many as they should be not even by their number would be a failure, too. -/
theorem podsByName_accounts (start : String) (count : PodCount) :
    (podsByName nspace start count).Accounts tolerated True False (·.2 = true)
      (fun found => found.2 = false ∨ ¬count.admits found.1.length) := by
  refine accounts_request_bind fun reply => ?_
  cases reply with
  | error e => exact accounts_fail Bool.false_ne_true
  | ok pods =>
    dsimp only
    split
    · rename_i hcount
      refine accounts_pure (fun _ => trivial) fun hbad => ?_
      exact hbad.elim Bool.noConfusion fun hcount' => hcount' hcount
    · exact (miscount_alarms ..).bind fun _ => Bool.false_ne_true

theorem podsByName_candid (start : String) (count : PodCount) :
    (podsByName nspace start count).Candid tolerated Prod.snd :=
  (podsByName_accounts start count).mono (fun _ => id) fun _ => .inl

theorem expectationMet_candid (pod : Pod) (e : Expectation) :
    (expectationMet pod e).Candid tolerated id := by
  unfold expectationMet
  split
  · exact accounts_reject ..
  · split
    · exact candid_true
    · exact accounts_reject ..

theorem podHealthy_candid (pod : Pod) (expected : Option Expectation) :
    (podHealthy pod expected).Candid tolerated id := by
  unfold podHealthy
  split
  · refine candid_both ?_ (candid_forAll fun _ _ => accounts_reject ..)
    cases expected with
    | none => exact candid_true
    | some e => exact expectationMet_candid pod e
  · exact accounts_reject ..

theorem podsHealthy_candid (pods : List Pod) : (podsHealthy pods).Candid tolerated id :=
  candid_forAll fun pod _ => podHealthy_candid pod none

theorem phaseIn_candid (pod : Pod) (allowed : List Phase) :
    (phaseIn pod allowed).Candid tolerated id := by
  unfold phaseIn
  split
  · exact candid_true
  · exact accounts_reject ..

theorem claimBound_candid (name : String) : (claimBound nspace name).Candid tolerated id := by
  refine accounts_request_bind fun reply => ?_
  cases reply with
  | error e => exact accounts_reject ..
  | ok phase =>
    dsimp only
    split
    · exact candid_true
    · split
      · exact accounts_reject ..
      · exact accounts_reject ..

theorem listIsArray_candid (cray service resource : String) :
    (listIsArray cray service resource).Candid tolerated id := by
  refine accounts_request_bind fun reply => ?_
  cases reply with
  | error e => exact accounts_reject ..
  | ok output =>
    dsimp only
    split
    · exact candid_true
    · exact accounts_reject ..
    · exact accounts_reject ..

theorem listsAreArrays_candid (cray service : String) (resources : List String) :
    (listsAreArrays cray service resources).Candid tolerated id :=
  candid_forAll fun resource _ => listIsArray_candid cray service resource

namespace EtcdService

theorem podOk_candid (s : EtcdService) (pod : Pod) : (s.podOk nspace pod).Candid tolerated id := by
  refine candid_both ?_ (phaseIn_candid ..)
  split
  · exact claimBound_candid ..
  · exact candid_true

theorem memberCountOk_candid (s : EtcdService) (pods : List Pod) :
    (s.memberCountOk pods).Candid tolerated id := by
  unfold memberCountOk
  dsimp only
  split
  · exact candid_true
  · exact accounts_reject ..

theorem podsOk_candid (s : EtcdService) : (s.podsOk nspace).Candid tolerated id := by
  refine (podsByName_candid ..).bind fun (pods, counted) => ?_
  refine (candid_forAll fun pod _ => podOk_candid s pod).bind fun healthy => ?_
  refine (memberCountOk_candid s pods).bind fun complete => ?_
  exact accounts_pure (by grind) (by grind)

end EtcdService

theorem conman_candid (expected : Option Expectation) :
    (conman nspace expected).Candid tolerated id := by
  refine (podsByName_candid ..).bind fun (pods, counted) => ?_
  refine (candid_forAll fun pod _ => podHealthy_candid pod expected).bind fun healthy => ?_
  refine (claimBound_candid ..).bind fun bound => ?_
  exact accounts_pure (by grind) (by grind)

namespace Vcs

theorem podOk_candid (pod : Pod) : (podOk nspace pod).Candid tolerated id := by
  refine candid_both ?_ (phaseIn_candid ..)
  split
  · exact claimBound_candid ..
  · exact candid_true

theorem countsOk_candid (pods : List Pod) : (countsOk pods).Candid tolerated id := by
  refine accounts_ite_bind (fun _ => candid_true) (fun _ => accounts_reject ..) fun passed => ?_
  exact accounts_warn_when (accounts_pure id id)

end Vcs

theorem vcs_candid : (vcs nspace).Candid tolerated id := by
  refine (podsByName_candid ..).bind fun (pods, counted) => ?_
  refine (claimBound_candid ..).bind fun bound => ?_
  refine (candid_forAll fun pod _ => Vcs.podOk_candid pod).bind fun healthy => ?_
  refine (Vcs.countsOk_candid pods).bind fun complete => ?_
  exact accounts_pure (by grind) (by grind)

namespace Cfs

theorem podOk_candid (pod : Pod) : (podOk pod).Candid tolerated id := by
  unfold podOk
  split
  · exact candid_true
  · split
    · exact accounts_warn_bind candid_true
    · exact phaseIn_candid ..

theorem roleFilled_candid (pods : List Pod) (role : Role) :
    (roleFilled pods role).Candid tolerated id := by
  unfold roleFilled
  split
  · exact candid_true
  · exact accounts_reject ..

theorem podsOk_candid : (podsOk nspace).Candid tolerated id := by
  refine (podsByName_candid ..).bind fun (pods, counted) => ?_
  refine (candid_forAll fun pod _ => podOk_candid pod).bind fun healthy => ?_
  refine (candid_forAll fun role _ => roleFilled_candid pods role).bind fun filled => ?_
  exact accounts_pure (by grind) (by grind)

end Cfs
end ClusterHealth.Checks
