import ClusterHealth.Proofs.Api.Collections
import ClusterHealth.Proofs.Requests.Api
import ClusterHealth.Proofs.Verdicts

/-! Documents that have to be of a shape. Each of them is judged by itself, whatever became of the
others. -/
namespace ClusterHealth.Checks.Api
open Procedure

/-- One document is fetched and judged by what its answer means. -/
theorem Fetches.weighs {path : String} {means : Answer → α → Prop} {p : Procedure (Option α)}
    {f : Option α → Procedure Bool} {good : Exchange → Prop} (fine : α → Prop)
    (hp : Fetches path means p) (hnone : (f none).Weighs good False)
    (hsome : ∀ value, (f (some value)).Weighs good (fine value))
    (hgood : ∀ answer, good (fetched path answer) ↔ ∃ value, means answer value ∧ fine value) :
    (p >>= f).Weighs good True := by
  refine Exchanges.bind (Exchanges.mono hp fun exchanged result h => ?_)
  obtain ⟨answer, rfl, hmeans⟩ := h
  have hverdict {rest : List Exchange} {holds : Prop} (hiff : holds ↔ good (fetched path answer)) :
      (∀ e ∈ rest, good e) ∧ holds ↔ (∀ e ∈ [fetched path answer] ++ rest, good e) ∧ True := by
    rw [List.forall_mem_append, List.forall_mem_singleton, hiff, and_true, and_comm]
  cases result with
  | none =>
    have hbad : False ↔ good (fetched path answer) := by
      refine iff_of_false not_false fun h => ?_
      obtain ⟨value, hvalue, -⟩ := (hgood answer).1 h
      exact nomatch (hmeans value).2 hvalue
    exact Exchanges.mono hnone fun _ _ hpassed => hpassed.trans (hverdict hbad)
  | some value =>
    have hfine : fine value ↔ good (fetched path answer) := by
      simp only [hgood, ← hmeans, Option.some.injEq, exists_eq_left']
    exact Exchanges.mono (hsome value) fun _ _ hpassed => hpassed.trans (hverdict hfine)

/-- What a document has to be. -/
inductive Shape where
  | object
  | list
  /-- A list of nothing but objects. -/
  | objects
  deriving DecidableEq

def Shape.Fits : Shape → Json → Prop
  | .object, body => ∃ fields, body = .object fields
  | .list, body => ∃ items, body = .array items
  | .objects, body => ∃ items, body = .array items ∧ ∀ item ∈ items, ∃ fields, item = .object fields

/-- The documents of boot orchestration and their shapes. -/
def bosEndpoints : List (String × Shape) := [
  ("/apis/bos/", .objects),
  ("/apis/bos/v1", .object),
  ("/apis/bos/v1/version", .object),
  ("/apis/bos/v2", .object),
  ("/apis/bos/v2/version", .object),
  ("/apis/bos/v1/healthz", .object),
  ("/apis/bos/v2/healthz", .object),
  ("/apis/bos/v2/options", .object),
  ("/apis/bos/v1/sessiontemplatetemplate", .object),
  ("/apis/bos/v2/sessiontemplatetemplate", .object),
  ("/apis/bos/v2/components", .list),
  ("/apis/bos/v1/sessiontemplate", .list),
  ("/apis/bos/v2/sessiontemplates", .list),
  ("/apis/bos/v1/session", .list),
  ("/apis/bos/v2/sessions", .list)]

theorem bosEndpoints_eq : bosEndpoints =
    (bosVersions, .objects) :: (bosObjects.map (·, .object) ++ bosLists.map (·, .list)) := rfl

/-- A document of boot orchestration that could be fetched and has its shape. -/
def BosServes : Exchange → Prop
  | ⟨.getJson path, answer⟩ =>
    ∃ body, answer = .ok body ∧ ∀ shape, (path, shape) ∈ bosEndpoints → shape.Fits body
  | _ => False

theorem bosServes_iff {path : String} {shape : Shape} (h : (path, shape) ∈ bosEndpoints)
    {answer : Answer} :
    BosServes (fetched path answer) ↔ ∃ body, answer = .ok body ∧ shape.Fits body := by
  have hunique : ∀ e ∈ bosEndpoints, ∀ e' ∈ bosEndpoints, e.1 = e'.1 → e.2 = e'.2 := by decide
  refine exists_congr fun body => and_congr_right' ⟨fun hfits => hfits shape h, ?_⟩
  intro hfits other hother
  have hsame : other = shape := hunique _ hother _ h rfl
  rwa [hsame]

variable {good : Exchange → Prop}

/-- Every document of a shape is fetched, and the verdict is that of the reader of this shape. -/
theorem forAll_isSome_weighs {paths : List String} (shape : Shape) {means : Answer → α → Prop}
    {read : String → Procedure (Option α)} (hread : ∀ path, Fetches path means (read path))
    (hmeans : ∀ answer, (∃ value, means answer value) ↔ ∃ body, answer = .ok body ∧ shape.Fits body)
    (hpaths : ∀ path ∈ paths, (path, shape) ∈ bosEndpoints)
    (hgood : ∀ path answer, good (fetched path answer) ↔ BosServes (fetched path answer)) :
    (forAll paths fun path => do return (← read path).isSome).Weighs good True := by
  refine (weighs_forAll fun path hpath => ?_).congr (iff_of_true (fun _ _ => trivial) trivial)
  refine (hread path).weighs (fun _ => True) weighs_false (fun _ => weighs_true) fun answer => ?_
  simp only [hgood, bosServes_iff (hpaths path hpath), ← hmeans, and_true]

theorem isObject_iff {item : Json} : item.isObject = true ↔ ∃ fields, item = .object fields := by
  cases item <;> simp [Json.isObject]

theorem bosVersionList_weighs
    (hgood : ∀ path answer, good (fetched path answer) ↔ BosServes (fetched path answer)) :
    bosVersionList.Weighs good True := by
  have hversions : (bosVersions, .objects) ∈ bosEndpoints := List.mem_cons_self
  refine (list_fetches bosVersions).weighs
    (fun items => ∀ item ∈ items, ∃ fields, item = .object fields)
    weighs_false (fun items => (weighs_unless_reject ..).congr ?_) fun answer => ?_
  · simp only [List.all_eq_true, isObject_iff]
  · rw [hgood, bosServes_iff hversions]
    constructor
    · intro h
      obtain ⟨body, hbody, items, hitems, hobjects⟩ := h
      exact ⟨items, ⟨body, hbody, hitems⟩, hobjects⟩
    · intro h
      obtain ⟨items, ⟨body, hbody, hitems⟩, hobjects⟩ := h
      exact ⟨body, hbody, items, hitems, hobjects⟩

theorem bos_weighs
    (hgood : ∀ path answer, good (fetched path answer) ↔ BosServes (fetched path answer)) :
    bos.Weighs good True := by
  have hobjects : (objects bosObjects).Weighs good True := by
    refine forAll_isSome_weighs .object object_fetches (fun answer => ?_) (fun path hpath => ?_)
      hgood
    · exact exists_comm.trans (exists_congr fun body => exists_and_left)
    · rw [bosEndpoints_eq]
      exact List.mem_cons_of_mem _ (List.mem_append_left _ (List.mem_map_of_mem hpath))
  have hlists : (lists bosLists).Weighs good True := by
    refine forAll_isSome_weighs .list list_fetches (fun answer => ?_) (fun path hpath => ?_) hgood
    · exact exists_comm.trans (exists_congr fun body => exists_and_left)
    · rw [bosEndpoints_eq]
      exact List.mem_cons_of_mem _ (List.mem_append_right _ (List.mem_map_of_mem hpath))
  refine (weighs_both (bosVersionList_weighs hgood) (weighs_both hobjects hlists)).congr ?_
  rw [and_true, and_true]

end ClusterHealth.Checks.Api
