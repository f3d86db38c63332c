import ClusterHealth.Checks.Ims
import ClusterHealth.Proofs.Candor

/-! Requests to the service interfaces log an error exactly if they fail. Those of the image service
that are made for the log only are left out of its verdict, and their errors with them. -/
namespace ClusterHealth.Checks.Api
open Procedure

variable {tolerated : Log.Entry → Prop}

theorem get_candid (path : String) : (get path).Candid tolerated Option.isSome := by
  refine accounts_request_bind fun reply => ?_
  cases reply with
  | ok body => exact accounts_pure (fun _ => trivial) Bool.noConfusion
  | error e => exact accounts_fail Bool.false_ne_true

theorem object_candid (path : String) : (object path).Candid tolerated Option.isSome := by
  refine (get_candid path).bind fun body => ?_
  split
  · exact accounts_pure (fun h => ⟨trivial, h⟩) .inr
  · exact accounts_pure (fun _ => ⟨trivial, rfl⟩) Bool.noConfusion
  · exact accounts_fail Bool.false_ne_true

theorem list_candid (path : String) : (list path).Candid tolerated Option.isSome := by
  refine (get_candid path).bind fun body => ?_
  split
  · exact accounts_pure (fun h => ⟨trivial, h⟩) .inr
  · exact accounts_pure (fun _ => ⟨trivial, rfl⟩) Bool.noConfusion
  · exact accounts_fail Bool.false_ne_true

theorem objects_candid (paths : List String) : (objects paths).Candid tolerated id :=
  candid_forAll fun path _ => (object_candid path).bind fun _ => accounts_pure (⟨trivial, ·⟩) .inr

theorem lists_candid (paths : List String) : (lists paths).Candid tolerated id :=
  candid_forAll fun path _ => (list_candid path).bind fun _ => accounts_pure (⟨trivial, ·⟩) .inr

theorem bosVersionList_candid : bosVersionList.Candid tolerated id := by
  refine (list_candid bosVersions).bind fun versions? => ?_
  cases versions? with
  | none => exact accounts_false (.inr rfl)
  | some versions =>
    dsimp only
    split
    · exact accounts_true ⟨trivial, rfl⟩
    · exact accounts_reject ..

theorem bos_candid : bos.Candid tolerated id :=
  candid_both bosVersionList_candid
    (candid_both (objects_candid bosObjects) (lists_candid bosLists))

theorem itemByName_candid (path idField id' : String) :
    (itemByName path idField id').Candid tolerated id := by
  refine (object_candid _).bind fun fields? => ?_
  cases fields? with
  | none => exact accounts_false (.inr rfl)
  | some fields =>
    dsimp only
    split
    · exact accounts_true ⟨trivial, rfl⟩
    · exact accounts_reject ..

theorem firstItem_candid (path idField : String) (items : List Json) :
    (firstItem path idField items).Candid tolerated id := by
  unfold firstItem
  split
  · exact candid_true
  · split
    · exact itemByName_candid ..
    · exact accounts_reject ..

theorem page_candid (path field : String) : (page path field).Candid tolerated Option.isSome := by
  refine (get_candid path).bind fun body? => ?_
  cases body? with
  | none => exact accounts_pure Bool.noConfusion fun _ => .inr rfl
  | some body =>
    dsimp only
    split
    · exact accounts_pure (fun _ => ⟨trivial, rfl⟩) Bool.noConfusion
    · exact accounts_fail Bool.false_ne_true

theorem olderCollection_candid (c : Collection) :
    (olderCollection c).Candid tolerated id := by
  refine (list_candid _).bind fun items? => ?_
  cases items? with
  | none => exact accounts_false (.inr rfl)
  | some items => exact (firstItem_candid ..).behind ⟨trivial, rfl⟩

theorem collection_candid (c : Collection) : (collection c).Candid tolerated id := by
  refine (page_candid ..).bind fun page? => ?_
  have holder (newer : Bool) : (if c.inOlder && !page?.any (·.more) then do
        let older ← olderCollection c
        return newer && older
      else return newer : Procedure Bool).Accounts tolerated (id newer = true) (id newer = false)
        (id · = true) (id · = false) := by
    split
    · refine (olderCollection_candid c).bind fun older => accounts_pure (by grind) (by grind)
    · exact accounts_pure id id
  cases page? with
  | none => exact (accounts_false (.inr rfl)).bind holder
  | some page => exact ((firstItem_candid ..).behind ⟨trivial, rfl⟩).bind holder

theorem cfs_candid : cfs.Candid tolerated id :=
  candid_both (objects_candid cfsObjects)
    (candid_forAll fun c _ => collection_candid c)

theorem recipeRecords_candid (expected : Recipe) (found : Option String) (records : List Json) :
    (recipeRecords expected found records).Candid tolerated Prod.snd := by
  induction records generalizing found with
  | nil => exact accounts_pure (fun _ => trivial) Bool.noConfusion
  | cons record rest ih =>
    unfold recipeRecords
    dsimp only
    split
    · have hlast (linked : Bool) :
          (recipeRecords expected (some ((textField? "id" record).getD "")) rest >>= fun last =>
            pure (last.1, linked && last.2)).Accounts tolerated (id linked = true)
              (id linked = false) (·.2 = true) (·.2 = false) := by
        refine (ih _).bind fun last => accounts_pure ?_ ?_
        · simp
        · grind
      cases found with
      | none => exact accounts_ite_bind (fun _ => candid_true) (fun _ => accounts_reject ..) hlast
      | some first =>
        refine accounts_warn_bind ?_
        exact accounts_ite_bind (fun _ => candid_true) (fun _ => accounts_reject ..) hlast
    · exact accounts_warn_bind (ih found)

theorem recipePresent_candid (expected : Recipe) (records : List Json) :
    (recipePresent expected records).Candid tolerated id := by
  refine (recipeRecords_candid ..).bind fun (found, linked) => ?_
  cases found with
  | none => exact accounts_reject ..
  | some _ => exact accounts_pure (⟨trivial, ·⟩) .inr

/-- What the image service is asked for the log only. -/
def informational : List String := [
  "/apis/ims/healthz/live",
  "/apis/ims/healthz/ready",
  "/apis/ims/version",
  "/apis/ims/images",
  "/apis/ims/jobs",
  "/apis/ims/public-keys"]

theorem informational_eq : informational = imsHealth ++ imsVersion :: imsLists := rfl

/-- An entry about an answer that is asked for the log only. -/
def Informational (entry : Log.Entry) : Prop :=
  ∃ path ∈ informational, entry.fields.head? = some ("path", path)

variable {path : String}

theorem get_tolerable (h : path ∈ informational) : (get path).Tolerable Informational := by
  refine accounts_request_bind fun reply => ?_
  cases reply with
  | ok body => exact tolerable_pure _
  | error e => exact (tolerable_error ⟨path, h, rfl⟩).bind fun _ => tolerable_pure none

theorem object_tolerable (h : path ∈ informational) : (object path).Tolerable Informational := by
  refine (get_tolerable h).bind fun body => ?_
  split
  · exact tolerable_pure none
  · exact tolerable_pure _
  · exact (tolerable_error ⟨path, h, rfl⟩).bind fun _ => tolerable_pure none

theorem list_tolerable (h : path ∈ informational) : (list path).Tolerable Informational := by
  refine (get_tolerable h).bind fun body => ?_
  split
  · exact tolerable_pure none
  · exact tolerable_pure _
  · exact (tolerable_error ⟨path, h, rfl⟩).bind fun _ => tolerable_pure none

theorem ims_candid (expected : Option Recipe) : (ims expected).Candid Informational id := by
  have hinformational (path : String) (h : path ∈ imsHealth ++ imsVersion :: imsLists) :
      path ∈ informational := informational_eq ▸ h
  have hhealth : (objects imsHealth).Tolerable Informational :=
    tolerable_forAll fun path hpath =>
      (object_tolerable (hinformational path (List.mem_append_left _ hpath))).bind
        fun _ => tolerable_pure _
  have hversion : (object imsVersion).Tolerable Informational :=
    object_tolerable (hinformational _ (List.mem_append_right _ List.mem_cons_self))
  have hlists : (lists imsLists).Tolerable Informational := by
    refine tolerable_forAll fun path hpath => ?_
    have hlisted := List.mem_append_right imsHealth (List.mem_cons_of_mem imsVersion hpath)
    exact (list_tolerable (hinformational path hlisted)).bind fun _ => tolerable_pure _
  refine (list_candid imsRecipes).bind fun records? => ?_
  have hrest (passed : Bool) : (do
        let _ ← objects imsHealth
        let _ ← object imsVersion
        let _ ← lists imsLists
        return passed : Procedure Bool).Accounts Informational (id passed = true)
          (id passed = false) (id · = true) (id · = false) :=
    hhealth.bind fun _ => hversion.bind fun _ => hlists.bind fun _ => accounts_pure id id
  cases records? with
  | none => exact (accounts_false (.inr rfl)).bind hrest
  | some records =>
    cases expected with
    | none => exact (accounts_true ⟨trivial, rfl⟩).bind hrest
    | some recipe => exact ((recipePresent_candid ..).behind ⟨trivial, rfl⟩).bind hrest

end ClusterHealth.Checks.Api
