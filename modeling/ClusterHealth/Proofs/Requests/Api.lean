import ClusterHealth.Checks.Api
import ClusterHealth.Proofs.Requests

/-! The requests to the service interfaces. Those of boot orchestration and of image management are
the same whatever the others are answered; those for the configuration follow what is listed. -/
namespace ClusterHealth.Checks.Api
open Procedure

theorem get_makes (path : String) : (get path).Makes [.getJson path] := by
  refine makes_request_bind fun reply => ?_
  cases reply with
  | ok body => rfl
  | error e => rfl

theorem object_makes (path : String) : (object path).Makes [.getJson path] := by
  refine (get_makes path).ends fun body => ?_
  split
  · exact onlyLogs_pure none
  · exact onlyLogs_pure _
  · exact (onlyLogs_logged ..).bind fun _ => onlyLogs_pure none

theorem list_makes (path : String) : (list path).Makes [.getJson path] := by
  refine (get_makes path).ends fun body => ?_
  split
  · exact onlyLogs_pure none
  · exact onlyLogs_pure _
  · exact (onlyLogs_logged ..).bind fun _ => onlyLogs_pure none

theorem objects_makes (paths : List String) : (objects paths).Makes (paths.map .getJson) := by
  rw [List.map_eq_flatMap]
  exact makes_forAll fun path => (object_makes path).ends fun _ => onlyLogs_pure _

theorem lists_makes (paths : List String) : (lists paths).Makes (paths.map .getJson) := by
  rw [List.map_eq_flatMap]
  exact makes_forAll fun path => (list_makes path).ends fun _ => onlyLogs_pure _

/-- The paths of boot orchestration. -/
def bosPaths : List String := [
  "/apis/bos/",
  "/apis/bos/v1",
  "/apis/bos/v1/version",
  "/apis/bos/v2",
  "/apis/bos/v2/version",
  "/apis/bos/v1/healthz",
  "/apis/bos/v2/healthz",
  "/apis/bos/v2/options",
  "/apis/bos/v1/sessiontemplatetemplate",
  "/apis/bos/v2/sessiontemplatetemplate",
  "/apis/bos/v2/components",
  "/apis/bos/v1/sessiontemplate",
  "/apis/bos/v2/sessiontemplates",
  "/apis/bos/v1/session",
  "/apis/bos/v2/sessions"]

theorem bosPaths_eq : bosPaths = bosVersions :: (bosObjects ++ bosLists) := rfl

theorem bos_makes : bos.Makes (bosPaths.map .getJson) := by
  have hversions : bosVersionList.Makes [.getJson bosVersions] := by
    refine (list_makes bosVersions).ends fun versions? => ?_
    cases versions? with
    | none => exact onlyLogs_pure false
    | some versions =>
      dsimp only
      split
      · exact onlyLogs_pure true
      · exact onlyLogs_reject ..
  rw [bosPaths_eq, List.map_cons, List.map_append]
  exact makes_both hversions (makes_both (objects_makes bosObjects) (lists_makes bosLists))

theorem list_asks (path : String) : (list path).Asks Request.Looks :=
  (list_makes path).asks (by simp [Request.Looks])

theorem firstItem_asks (path idField : String) (items : List Json) :
    (firstItem path idField items).Asks Request.Looks := by
  unfold firstItem
  split
  · exact asks_pure true
  · split
    · refine ((object_makes _).ends fun fields? => ?_).asks (by simp [Request.Looks])
      cases fields? with
      | none => exact onlyLogs_pure false
      | some fields =>
        dsimp only
        split
        · exact onlyLogs_pure true
        · exact onlyLogs_reject ..
    · exact (onlyLogs_reject ..).asks

theorem page_asks (path field : String) : (page path field).Asks Request.Looks := by
  refine ((get_makes path).ends fun body? => ?_).asks (by simp [Request.Looks])
  cases body? with
  | none => exact onlyLogs_pure none
  | some body =>
    dsimp only
    split
    · exact onlyLogs_pure _
    · exact (onlyLogs_logged ..).bind fun _ => onlyLogs_pure none

theorem collection_asks (c : Collection) : (collection c).Asks Request.Looks := by
  have holder : (olderCollection c).Asks Request.Looks := by
    refine (list_asks _).bind fun items? => ?_
    cases items? with
    | none => exact asks_pure false
    | some items => exact firstItem_asks ..
  refine (page_asks _ _).bind fun page? => ?_
  have hrest (newer : Bool) : (if c.inOlder && !page?.any (·.more) then do
        let older ← olderCollection c
        return newer && older
      else return newer : Procedure Bool).Asks Request.Looks := by
    split
    · exact holder.bind fun _ => asks_pure _
    · exact asks_pure newer
  cases page? with
  | none => exact hrest false
  | some page => exact (firstItem_asks _ _ _).bind hrest

theorem cfs_asks : cfs.Asks Request.Looks := by
  have hobjects : (objects cfsObjects).Asks Request.Looks :=
    (objects_makes cfsObjects).asks (by simp [Request.Looks])
  refine hobjects.bind fun _ => Asks.bind ?_ fun _ => asks_pure _
  exact asks_forAll fun c _ => collection_asks c

theorem recipeRecords_onlyLogs (expected : Recipe) (found : Option String) (records : List Json) :
    (recipeRecords expected found records).OnlyLogs := by
  induction records generalizing found with
  | nil => exact onlyLogs_pure _
  | cons record rest ih =>
    unfold recipeRecords
    dsimp only
    split
    · cases found with
      | none =>
        refine onlyLogs_ite_bind (onlyLogs_pure true) (onlyLogs_reject ..) fun linked => ?_
        exact (ih _).bind fun _ => onlyLogs_pure _
      | some first =>
        refine (onlyLogs_logged ..).bind fun _ => ?_
        refine onlyLogs_ite_bind (onlyLogs_pure true) (onlyLogs_reject ..) fun linked => ?_
        exact (ih _).bind fun _ => onlyLogs_pure _
    · exact (onlyLogs_logged ..).bind fun _ => ih found

theorem recipePresent_onlyLogs (expected : Recipe) (records : List Json) :
    (recipePresent expected records).OnlyLogs := by
  refine (recipeRecords_onlyLogs ..).bind fun (found, linked) => ?_
  cases found with
  | none => exact onlyLogs_reject ..
  | some _ => exact onlyLogs_pure linked

/-- The paths of image management. -/
def imsPaths : List String := [
  "/apis/ims/recipes",
  "/apis/ims/healthz/live",
  "/apis/ims/healthz/ready",
  "/apis/ims/version",
  "/apis/ims/images",
  "/apis/ims/jobs",
  "/apis/ims/public-keys"]

theorem ims_makes (expected : Option Recipe) : (ims expected).Makes (imsPaths.map .getJson) := by
  have hrest (passed : Bool) : (do
      let _ ← objects imsHealth
      let _ ← object imsVersion
      let _ ← lists imsLists
      return passed : Procedure Bool).Makes
        ((imsHealth ++ imsVersion :: imsLists).map .getJson) := by
    rw [List.map_append, List.map_cons]
    refine (objects_makes imsHealth).bind fun _ => (object_makes imsVersion).bind fun _ => ?_
    exact (lists_makes imsLists).ends fun _ => onlyLogs_pure passed
  refine (list_makes imsRecipes).bind fun records? => ?_
  cases records? with
  | none => exact hrest false
  | some records =>
    cases expected with
    | none => exact hrest true
    | some recipe => exact (recipePresent_onlyLogs recipe records).begins hrest

end ClusterHealth.Checks.Api
