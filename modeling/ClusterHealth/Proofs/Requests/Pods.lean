import ClusterHealth.Checks.CommandLists
import ClusterHealth.Checks.Pods
import ClusterHealth.Proofs.Requests

/-! The requests of judgements on pods, claims and command lists. Judging pods that have been listed
takes none, so that only their names can matter for what is asked afterwards. -/
namespace ClusterHealth.Checks
open Procedure

theorem miscount_onlyLogs (start : String) (count : PodCount) (found : Nat) :
    (miscount start count found).OnlyLogs := by
  unfold miscount
  dsimp only
  split
  · split
    · exact onlyLogs_logged ..
    · split
      · exact onlyLogs_logged ..
      · exact onlyLogs_logged ..
  · exact onlyLogs_logged ..

/-- The names of listed pods; none if they cannot be listed. -/
def listedNames : Except LookupError (List Pod) → List String
  | .error _ => []
  | .ok pods => pods.map (·.name)

theorem podsByName_makesAfter {f : List Pod × Bool → Procedure α} {nspace start : String}
    {count : PodCount} (calls : List String → List Request)
    (hf : ∀ pods counted, (f (pods, counted)).Makes (calls (pods.map (·.name)))) :
    (podsByName nspace start count >>= f).MakesAfter (.listPods nspace start) fun reply =>
      calls (listedNames reply) := by
  unfold podsByName
  rw [LawfulMonad.bind_assoc]
  refine makesAfter_request_bind fun reply => ?_
  cases reply with
  | error e => exact (onlyLogs_logged ..).begins fun _ => hf [] false
  | ok pods =>
    dsimp only
    split
    · exact hf pods true
    · rw [LawfulMonad.bind_assoc]
      exact (miscount_onlyLogs ..).begins fun _ => hf pods false

theorem podsByName_makes (nspace start : String) (count : PodCount) :
    (podsByName nspace start count).Makes [.listPods nspace start] := by
  refine makes_request_bind fun reply => ?_
  cases reply with
  | error e => rfl
  | ok pods =>
    dsimp only
    split
    · rfl
    · exact ((miscount_onlyLogs ..).bind fun _ => onlyLogs_pure _).makes

theorem claimBound_makes (nspace name : String) :
    (claimBound nspace name).Makes [.claimPhase nspace name] := by
  refine makes_request_bind fun reply => ?_
  cases reply with
  | error e => rfl
  | ok phase =>
    dsimp only
    split
    · rfl
    · split
      · rfl
      · rfl

theorem phaseIn_onlyLogs (pod : Pod) (allowed : List Phase) : (phaseIn pod allowed).OnlyLogs := by
  unfold phaseIn
  split
  · exact onlyLogs_pure true
  · exact onlyLogs_reject ..

theorem expectationMet_onlyLogs (pod : Pod) (e : Expectation) :
    (expectationMet pod e).OnlyLogs := by
  unfold expectationMet
  split
  · exact onlyLogs_reject ..
  · split
    · exact onlyLogs_pure true
    · exact onlyLogs_reject ..

theorem podHealthy_onlyLogs (pod : Pod) (expected : Option Expectation) :
    (podHealthy pod expected).OnlyLogs := by
  unfold podHealthy
  split
  · refine OnlyLogs.bind ?_ fun _ => OnlyLogs.bind ?_ fun _ => onlyLogs_pure _
    · cases expected with
      | none => exact onlyLogs_pure true
      | some e => exact expectationMet_onlyLogs pod e
    · exact onlyLogs_forAll fun _ _ => onlyLogs_reject ..
  · exact onlyLogs_reject ..

theorem podsHealthy_onlyLogs (pods : List Pod) : (podsHealthy pods).OnlyLogs :=
  onlyLogs_forAll fun pod _ => podHealthy_onlyLogs pod none

/-- The claims of some of the items, in their order. -/
theorem forAll_claims_makes {nspace : String} {items : List α} {check : α → Procedure Bool}
    {holder : α → Bool} {claim : α → String}
    (h : ∀ item, (check item).Makes
      (if holder item then [.claimPhase nspace (claim item)] else [])) :
    (forAll items check).Makes
      ((items.filter holder).map fun item => .claimPhase nspace (claim item)) := by
  induction items with
  | nil => rfl
  | cons item rest ih =>
    have hboth := makes_both (h item) ih
    by_cases hholder : holder item = true
    · rw [List.filter_cons_of_pos hholder, List.map_cons]
      rwa [if_pos hholder] at hboth
    · rw [List.filter_cons_of_neg hholder]
      rwa [if_neg hholder] at hboth

/-- What the command line is asked for. -/
def listCommand (cray service resource : String) : Request :=
  .exec .host cray [service, resource, "list", "--format", "json"]

theorem listIsArray_makes (cray service resource : String) :
    (listIsArray cray service resource).Makes [listCommand cray service resource] := by
  refine makes_request_bind fun reply => ?_
  cases reply with
  | error e => rfl
  | ok output =>
    dsimp only
    split
    · rfl
    · rfl
    · rfl

theorem listsAreArrays_makes (cray service : String) (resources : List String) :
    (listsAreArrays cray service resources).Makes
      (resources.map (listCommand cray service)) := by
  rw [List.map_eq_flatMap]
  exact makes_forAll fun resource => listIsArray_makes cray service resource

end ClusterHealth.Checks
