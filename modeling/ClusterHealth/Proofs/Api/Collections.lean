import ClusterHealth.Checks.Api
import ClusterHealth.Proofs.Exchanges
import ClusterHealth.Rehearsal.Attempts

/-!
The interfaces of the configuration service: what is fetched from them, in which order, and what the
answers have to be like. Every collection is listed in the newer version, and in the older one
unless there are more pages; the first item of a list is fetched by its name.
-/
namespace ClusterHealth.Checks.Api
open Procedure

/-- What a request for a document is answered. -/
abbrev Answer := Except ApiError Json

/-- The document at `path` is asked for. -/
def fetched (path : String) (answer : Answer) : Exchange := ⟨.getJson path, answer⟩

/-- An answer that is an object. -/
def IsObject (answer : Answer) : Prop := ∃ fields, answer = .ok (.object fields)

/-- An object with the text `id` in the field `idField`; nothing but objects has fields. -/
def Carries (idField id : String) (item : Json) : Prop := item.field? idField = some (.string id)

/-- A page of the list `name`: an object that has it in a field of that name. The field `next` is
null behind the last page and an object if there are more. -/
inductive IsPage (name : String) : Json → List Json → Bool → Prop
  | last {body : Json} {items : List Json} (listed : body.field? name = some (.array items))
      (next : body.field? "next" = some .null) : IsPage name body items false
  | more {body : Json} {items : List Json} {next : List (String × Json)}
      (listed : body.field? name = some (.array items))
      (next : body.field? "next" = some (.object next)) : IsPage name body items true

/-- An answer of the newer version that lists `items`. -/
def ListsPage (name : String) (answer : Answer) (items : List Json) : Prop :=
  ∃ body more, answer = .ok body ∧ IsPage name body items more

/-- An answer of the newer version with more pages behind it. -/
def HasMore (name : String) (answer : Answer) : Prop :=
  ∃ body items, answer = .ok body ∧ IsPage name body items true

/-- An answer of the older version that lists `items`. -/
def ListsAll (answer : Answer) (items : List Json) : Prop := answer = .ok (.array items)

/-- How the first of the items listed at `path` is looked up: what is exchanged, and whether the
list passes. -/
inductive LooksUp (path idField : String) : List Json → List Exchange → Bool → Prop
  | empty : LooksUp path idField [] [] true
  | nameless {item : Json} {rest : List Json} (h : ∀ id, ¬Carries idField id item) :
      LooksUp path idField (item :: rest) [] false
  | found {item : Json} {rest : List Json} {id : String} {body : Json}
      (name : Carries idField id item) (same : Carries idField id body) :
      LooksUp path idField (item :: rest) [fetched s!"{path}/{id}" (.ok body)] true
  | missed {item : Json} {rest : List Json} {id : String} {answer : Answer}
      (name : Carries idField id item)
      (other : ∀ body, answer = .ok body → ¬Carries idField id body) :
      LooksUp path idField (item :: rest) [fetched s!"{path}/{id}" answer] false

/-- How a collection is visited in one version: it is listed, and if the answer lists items in the
way of this version, the first one is looked up. -/
inductive Visits (path idField : String) (lists : Answer → List Json → Prop) :
    Answer → List Exchange → Bool → Prop
  | listed {answer : Answer} {items : List Json} {exchanged : List Exchange} {passed : Bool}
      (answered : lists answer items) (lookUp : LooksUp path idField items exchanged passed) :
      Visits path idField lists answer (fetched path answer :: exchanged) passed
  | unlisted {answer : Answer} (h : ∀ items, ¬lists answer items) :
      Visits path idField lists answer [fetched path answer] false

/-- How a collection is visited in all versions that serve it. -/
inductive Covers (c : Collection) : List Exchange → Bool → Prop
  | newer {answer : Answer} {exchanged : List Exchange} {passed : Bool}
      (visit : Visits s!"/apis/cfs/v3/{c.name}" c.idField (ListsPage c.name) answer exchanged
        passed)
      (enough : c.inOlder = false ∨ HasMore c.name answer) : Covers c exchanged passed
  | both {answer older : Answer} {first second : List Exchange} {a b : Bool}
      (visit : Visits s!"/apis/cfs/v3/{c.name}" c.idField (ListsPage c.name) answer first a)
      (served : c.inOlder = true) (short : ¬HasMore c.name answer)
      (again : Visits s!"/apis/cfs/v2/{c.name}" c.idField ListsAll older second b) :
      Covers c (first ++ second) (a && b)

theorem Visits.lists_of_passed {path idField : String} {lists : Answer → List Json → Prop}
    {answer : Answer} {exchanged : List Exchange} {passed : Bool}
    (h : Visits path idField lists answer exchanged passed) (hpassed : passed = true) :
    fetched path answer ∈ exchanged ∧ ∃ items, lists answer items := by
  cases h with
  | listed answered lookUp => exact ⟨List.mem_cons_self, _, answered⟩
  | unlisted h => cases hpassed

/-- A collection passes only if the newer version lists it. -/
theorem Covers.lists_of_passed {c : Collection} {exchanged : List Exchange} {passed : Bool}
    (h : Covers c exchanged passed) (hpassed : passed = true) :
    ∃ answer items, fetched s!"/apis/cfs/v3/{c.name}" answer ∈ exchanged ∧
      ListsPage c.name answer items := by
  cases h with
  | newer visit enough =>
    obtain ⟨hfetched, items, hlists⟩ := visit.lists_of_passed hpassed
    exact ⟨_, items, hfetched, hlists⟩
  | both visit served short again =>
    obtain ⟨hfetched, items, hlists⟩ := visit.lists_of_passed (Bool.and_eq_true_iff.1 hpassed).1
    exact ⟨_, items, List.mem_append_left _ hfetched, hlists⟩

/-- The field that is taken out first is another one. -/
theorem field?_filter_ne {field other : String} (h : field ≠ other)
    (fields : List (String × Json)) :
    (Json.object (fields.filter (·.1 != other))).field? field =
      (Json.object fields).field? field := by
  unfold Json.field?
  dsimp only
  rw [List.find?_filter]
  congr 2
  funext entry
  by_cases hkey : entry.1 = field
  · simp [hkey, h]
  · simp [hkey]

theorem ofBody_eq_ok (path : String) {name : String} (hname : name ≠ "next") {body : Json}
    {items : List Json} {more : Bool} :
    Page.ofBody path body name = .ok ⟨items, more⟩ ↔ IsPage name body items more := by
  cases body with
  | object fields =>
    unfold Page.ofBody
    dsimp only
    rw [field?_filter_ne hname]
    constructor
    · intro h
      split at h
      · rename_i next hnext
        split at h
        · rename_i listed hlisted
          rw [pure_bind] at h
          cases next with
          | null =>
            cases h
            exact .last hlisted hnext
          | object fields =>
            cases h
            exact .more hlisted hnext
          | _ => cases h
        · cases h
        · cases h
      · cases h
    · intro h
      cases h with
      | last hlisted hnext =>
        rw [hnext, hlisted]
        rfl
      | more hlisted hnext =>
        rw [hnext, hlisted]
        rfl
  | _ =>
    refine iff_of_false nofun fun h => ?_
    cases h with
    | last hlisted _ => cases hlisted
    | more hlisted _ => cases hlisted

theorem Carries.object {idField id : String} {item : Json} (h : Carries idField id item) :
    ∃ fields, item = .object fields := by
  cases item with
  | object fields => exact ⟨fields, rfl⟩
  | _ => cases h

theorem firstId_eq_ok {path idField id : String} {item : Json} {rest : List Json} :
    firstId path (item :: rest) idField = .ok id ↔ Carries idField id item := by
  cases item with
  | object fields =>
    unfold firstId Carries
    dsimp only
    split
    · rename_i name hname
      rw [hname]
      simp
    · rename_i value hother hvalue
      rw [hvalue]
      refine iff_of_false nofun fun h => ?_
      exact hother id (Option.some.inj h)
    · rename_i hnone
      rw [hnone]
      exact iff_of_false nofun nofun
  | _ => exact iff_of_false nofun nofun

/-- One document is fetched, and `means` says what its answer comes to. -/
def Fetches (path : String) (means : Answer → α → Prop) (p : Procedure (Option α)) : Prop :=
  p.Exchanges fun exchanged result =>
    ∃ answer, exchanged = [fetched path answer] ∧ ∀ value, result = some value ↔ means answer value

/-- What is fetched is read as something else without further requests. -/
theorem Fetches.bind {path : String} {means : Answer → α → Prop} {reads : α → β → Prop}
    {p : Procedure (Option α)} {f : Option α → Procedure (Option β)} (hp : Fetches path means p)
    (hnone : f none = pure none)
    (hsome : ∀ value, (f (some value)).Exchanges fun exchanged result =>
      exchanged = [] ∧ ∀ other, result = some other ↔ reads value other) :
    Fetches path (fun answer other => ∃ value, means answer value ∧ reads value other)
      (p >>= f) := by
  refine Exchanges.bind (hp.mono fun exchanged result h => ?_)
  obtain ⟨answer, rfl, hmeans⟩ := h
  cases result with
  | none =>
    rw [hnone]
    refine ⟨answer, rfl, fun other => iff_of_false nofun fun h => ?_⟩
    obtain ⟨value, hvalue, -⟩ := h
    exact nomatch (hmeans value).2 hvalue
  | some value =>
    refine (hsome value).mono fun exchanged result h => ?_
    obtain ⟨rfl, hreads⟩ := h
    refine ⟨answer, rfl, fun other => (hreads other).trans ⟨fun h => ?_, fun h => ?_⟩⟩
    · exact ⟨value, (hmeans value).1 rfl, h⟩
    · obtain ⟨same, hsame, hother⟩ := h
      obtain rfl : value = same := Option.some.inj ((hmeans same).2 hsame)
      exact hother

theorem get_fetches (path : String) :
    Fetches path (fun answer body => answer = .ok body) (get path) := by
  refine exchanges_request_bind.2 fun answer => ?_
  cases answer with
  | ok body => exact ⟨.ok body, rfl, fun value => by simp⟩
  | error e => exact ⟨.error e, rfl, fun value => by simp⟩

theorem object_fetches (path : String) :
    Fetches path (fun answer fields => ∃ body, answer = .ok body ∧ body = .object fields)
      (object path) := by
  refine (get_fetches path).bind rfl fun body => ?_
  cases body with
  | object fields => exact ⟨rfl, fun other => by simp⟩
  | _ => exact ⟨rfl, fun other => by simp⟩

theorem list_fetches (path : String) :
    Fetches path (fun answer items => ∃ body, answer = .ok body ∧ body = .array items)
      (list path) := by
  refine (get_fetches path).bind rfl fun body => ?_
  cases body with
  | array items => exact ⟨rfl, fun other => by simp⟩
  | _ => exact ⟨rfl, fun other => by simp⟩

theorem page_fetches (path : String) {name : String} (hname : name ≠ "next") :
    Fetches path
      (fun answer page => ∃ body, answer = .ok body ∧ IsPage name body page.items page.more)
      (page path name) := by
  refine (get_fetches path).bind rfl fun body => ?_
  cases hbody : Page.ofBody path body name with
  | ok page =>
    dsimp only
    rw [hbody]
    refine ⟨rfl, fun other => ?_⟩
    rw [← ofBody_eq_ok path hname, hbody]
    simp
  | error e =>
    dsimp only
    rw [hbody]
    refine ⟨rfl, fun other => ?_⟩
    rw [← ofBody_eq_ok path hname, hbody]
    simp

theorem itemByName_exchanges (path idField id : String) :
    (itemByName path idField id).Exchanges fun exchanged passed =>
      ∃ answer, exchanged = [fetched s!"{path}/{id}" answer] ∧
        (passed = true ↔ ∃ body, answer = .ok body ∧ Carries idField id body) := by
  refine Exchanges.bind ((object_fetches _).mono fun exchanged result h => ?_)
  obtain ⟨answer, rfl, hmeans⟩ := h
  cases result with
  | none =>
    refine ⟨answer, rfl, iff_of_false Bool.false_ne_true fun h => ?_⟩
    obtain ⟨body, hbody, hcarries⟩ := h
    obtain ⟨fields, hfields⟩ := hcarries.object
    exact nomatch (hmeans fields).2 ⟨body, hbody, hfields⟩
  | some fields =>
    obtain ⟨_, rfl, rfl⟩ := (hmeans fields).1 rfl
    -- The name is read by a text reader, and not by comparing the field as a whole.
    have hcarries : ((Json.object fields).field? idField).bind Json.string? = some id ↔
        Carries idField id (.object fields) := by
      simp [Carries, Option.bind_eq_some_iff, Json.string?_eq_some]
    dsimp only
    split
    · rename_i hname
      exact ⟨_, rfl, iff_of_true rfl ⟨_, rfl, hcarries.1 hname⟩⟩
    · rename_i hname
      refine ⟨_, rfl, iff_of_false Bool.false_ne_true fun h => ?_⟩
      obtain ⟨body, hbody, hsame⟩ := h
      cases hbody
      exact hname (hcarries.2 hsame)

theorem firstItem_exchanges (path idField : String) (items : List Json) :
    (firstItem path idField items).Exchanges (LooksUp path idField items) := by
  cases items with
  | nil => exact .empty
  | cons item rest =>
    unfold firstItem
    rw [List.isEmpty_cons, if_neg Bool.false_ne_true]
    cases hfirst : firstId path (item :: rest) idField with
    | error e =>
      refine .nameless fun id hid => ?_
      exact nomatch hfirst.symm.trans (firstId_eq_ok.2 hid)
    | ok id =>
      have hname := firstId_eq_ok.1 hfirst
      refine (itemByName_exchanges path idField id).mono fun exchanged passed h => ?_
      obtain ⟨answer, rfl, hpassed⟩ := h
      cases passed with
      | true =>
        obtain ⟨body, rfl, hsame⟩ := hpassed.1 rfl
        exact .found hname hsame
      | false =>
        refine .missed hname fun body hbody hsame => ?_
        exact Bool.false_ne_true (hpassed.2 ⟨body, hbody, hsame⟩)

theorem olderCollection_exchanges (c : Collection) :
    (olderCollection c).Exchanges fun exchanged passed =>
      ∃ answer, Visits (olderPath c) c.idField ListsAll answer exchanged passed := by
  refine Exchanges.bind ((list_fetches _).mono fun exchanged result h => ?_)
  obtain ⟨answer, rfl, hmeans⟩ := h
  cases result with
  | none =>
    refine ⟨answer, .unlisted fun items hitems => ?_⟩
    exact nomatch (hmeans items).2 ⟨_, hitems, rfl⟩
  | some items =>
    obtain ⟨_, rfl, rfl⟩ := (hmeans items).1 rfl
    refine (firstItem_exchanges _ _ items).mono fun exchanged passed h => ?_
    exact ⟨_, .listed rfl h⟩

/-- More pages are known of only if the first one could be read. -/
theorem any_more_iff {name : String} {answer : Answer} {page? : Option Page}
    (hmeans : ∀ page, page? = some page ↔
      ∃ body, answer = .ok body ∧ IsPage name body page.items page.more) :
    page?.any (·.more) = true ↔ HasMore name answer := by
  constructor
  · intro h
    obtain ⟨page, hpage, hany⟩ := (Option.any_eq_true ..).1 h
    obtain ⟨body, hbody, hlisted⟩ := (hmeans page).1 hpage
    rw [hany] at hlisted
    exact ⟨body, page.items, hbody, hlisted⟩
  · intro h
    obtain ⟨body, items, hbody, hpage⟩ := h
    rw [(hmeans ⟨items, true⟩).2 ⟨body, hbody, hpage⟩]
    rfl

theorem collection_exchanges {c : Collection} (hname : c.name ≠ "next") :
    (collection c).Exchanges (Covers c) := by
  refine Exchanges.bind ((page_fetches _ hname).mono fun exchanged page? h => ?_)
  obtain ⟨answer, rfl, hmeans⟩ := h
  have hmore := any_more_iff hmeans
  -- The older version is left for the end in the same way, whether there was a page or not.
  have hrest (newer : Bool) (first : List Exchange)
      (hvisit : Visits (newerPath c) c.idField (ListsPage c.name) answer first newer) :
      (if c.inOlder && !page?.any (·.more) then do
        let older ← olderCollection c
        return newer && older
      else return newer : Procedure Bool).Exchanges
        fun rest passed => Covers c (first ++ rest) passed := by
    split
    · rename_i hagain
      obtain ⟨hserved, hfew⟩ := Bool.and_eq_true_iff.1 hagain
      have hshort : ¬HasMore c.name answer := by
        intro h
        simp [hmore.2 h] at hfew
      refine Exchanges.bind ((olderCollection_exchanges c).mono fun second older h => ?_)
      obtain ⟨last, hlast⟩ := h
      have hcovers := Covers.both hvisit hserved hshort hlast
      simpa [exchanges_pure] using hcovers
    · rename_i hagain
      have henough : c.inOlder = false ∨ HasMore c.name answer := by
        rw [← hmore]
        revert hagain
        cases c.inOlder <;> simp
      have hcovers := Covers.newer hvisit henough
      simpa [exchanges_pure] using hcovers
  cases page? with
  | none =>
    have hnone : ∀ items, ¬ListsPage c.name answer items := by
      intro items h
      obtain ⟨body, more, hbody, hpage⟩ := h
      exact nomatch (hmeans ⟨items, more⟩).2 ⟨body, hbody, hpage⟩
    exact hrest false _ (.unlisted hnone)
  | some page =>
    obtain ⟨body, hbody, hpage⟩ := (hmeans page).1 rfl
    refine Exchanges.bind ((firstItem_exchanges _ _ page.items).mono fun looked newer h => ?_)
    have hlists : ListsPage c.name answer page.items := ⟨body, page.more, hbody, hpage⟩
    exact hrest newer _ (.listed hlists h)

theorem isObject_exchanges (path : String) :
    (do return (← object path).isSome : Procedure Bool).Exchanges fun exchanged passed =>
      ∃ answer, exchanged = [fetched path answer] ∧ (passed = true ↔ IsObject answer) := by
  refine Exchanges.bind ((object_fetches path).mono fun exchanged fields? h => ?_)
  obtain ⟨answer, rfl, hmeans⟩ := h
  refine ⟨answer, rfl, Option.isSome_iff_exists.trans (exists_congr fun fields => ?_)⟩
  rw [hmeans fields]
  simp

theorem objects_exchanges (paths : List String) :
    (objects paths).Exchanges fun exchanged passed =>
      ∃ answers : List Answer, answers.length = paths.length ∧
        exchanged = List.zipWith fetched paths answers ∧
        (passed = true ↔ ∀ answer ∈ answers, IsObject answer) := by
  induction paths with
  | nil => exact ⟨[], rfl, rfl, iff_of_true rfl (List.forall_mem_nil _)⟩
  | cons path rest ih =>
    refine (exchanges_both (isObject_exchanges path) ih).mono fun exchanged passed h => ?_
    obtain ⟨_, a, _, b, rfl, rfl, ⟨answer, rfl, ha⟩, answers, hlength, rfl, hb⟩ := h
    refine ⟨answer :: answers, congrArg _ hlength, rfl, ?_⟩
    rw [List.forall_mem_cons, Bool.and_eq_true, ha, hb]

/-- All objects are fetched, and then all collections are visited in turn, whatever failed before.
The check passes if everything that has to be an object is one and every collection passes. -/
theorem cfs_verdict (answer : (r : Request) → σ → Reply r × σ) (state : σ) :
    let outcome := cfs.run answer state
    ∃ (healthz root versions older newer olderOptions newerOptions : Answer)
      (courses : List (List Exchange × Bool)),
      List.Forall₂ (fun c course => Covers c course.1 course.2)
        [⟨"components", "id", true⟩, ⟨"configurations", "name", true⟩, ⟨"sessions", "name", true⟩,
          ⟨"sources", "name", false⟩] courses ∧
      Event.exchanges outcome.events =
        [fetched "/apis/cfs/healthz" healthz, fetched "/apis/cfs/" root,
          fetched "/apis/cfs/versions" versions, fetched "/apis/cfs/v2" older,
          fetched "/apis/cfs/v3" newer, fetched "/apis/cfs/v2/options" olderOptions,
          fetched "/apis/cfs/v3/options" newerOptions] ++ courses.flatMap Prod.fst ∧
      (outcome.value = true ↔
        (∀ body ∈ [healthz, root, versions, older, newer, olderOptions, newerOptions],
          IsObject body) ∧ ∀ course ∈ courses, course.2 = true) := by
  intro outcome
  have hnames : ∀ c ∈ cfsCollections, c.name ≠ "next" := by decide
  have hcollections := exchanges_forAll fun c hc => collection_exchanges (hnames c hc)
  have hcfs : cfs.Exchanges _ := exchanges_both (objects_exchanges cfsObjects) hcollections
  obtain ⟨_, a, _, b, hexchanges, hvalue, hobjects, hvisited⟩ := Always.run hcfs answer state
  obtain ⟨answers, hlength, rfl, ha⟩ := hobjects
  obtain ⟨courses, hcourses, rfl, hb⟩ := hvisited
  match answers, hlength with
  | [healthz, root, versions, older, newer, olderOptions, newerOptions], _ =>
    refine ⟨healthz, root, versions, older, newer, olderOptions, newerOptions, courses, hcourses,
      hexchanges, ?_⟩
    rw [← ha, ← hb, ← Bool.and_eq_true]
    exact hvalue ▸ Iff.rfl

/-- An interface whose newer version fails to list the components and has more configurations. -/
def withoutComponents : (r : Request) → Reply r
  | .getJson "/apis/cfs/v3/components" => .error (.status "/apis/cfs/v3/components" 503)
  | .getJson "/apis/cfs/v2/components" => .ok (.array [.object [("id", .string "x3000c0s1b0n0")]])
  | .getJson "/apis/cfs/v2/components/x3000c0s1b0n0" =>
    .ok (.object [("id", .string "x3000c0s1b0n0")])
  | .getJson "/apis/cfs/v3/configurations" =>
    .ok (.object [("configurations", .array []), ("next", .object [])])
  | .getJson "/apis/cfs/v3/sessions" => .ok (.object [("next", .null), ("sessions", .array [])])
  | .getJson "/apis/cfs/v2/sessions" => .ok (.array [])
  | .getJson "/apis/cfs/v3/sources" => .ok (.object [("next", .null), ("sources", .array [])])
  | .getJson _ => .ok (.object [])
  | r => Rehearsal.refusal r

/-- The documents that are asked for. -/
def documents (events : List Event) : List String :=
  (Event.exchanges events).filterMap fun
    | ⟨.getJson path, _⟩ => some path
    | _ => none

/-- A failed list fails the check. The older version of it is visited all the same, and so is
everything behind it. -/
theorem cfs_verdict_without_components :
    let outcome := cfs.run (fun r state => (withoutComponents r, state)) ()
    documents outcome.events =
      ["/apis/cfs/healthz", "/apis/cfs/", "/apis/cfs/versions", "/apis/cfs/v2", "/apis/cfs/v3",
        "/apis/cfs/v2/options", "/apis/cfs/v3/options", "/apis/cfs/v3/components",
        "/apis/cfs/v2/components", "/apis/cfs/v2/components/x3000c0s1b0n0",
        "/apis/cfs/v3/configurations", "/apis/cfs/v3/sessions", "/apis/cfs/v2/sessions",
        "/apis/cfs/v3/sources"] ∧
    outcome.value = false := by
  intro outcome
  obtain ⟨_, _, _, _, _, _, _, _, hcourses, hexchanges, hvalue⟩ :=
    cfs_verdict (fun r state => (withoutComponents r, state)) ()
  refine ⟨by decide +kernel, Bool.eq_false_iff.2 fun htrue => ?_⟩
  cases hcourses with
  | cons hcomponents hrest =>
    have hpassed := (hvalue.1 htrue).2 _ List.mem_cons_self
    obtain ⟨listing, items, hfetched, body, more, hbody, -⟩ := hcomponents.lists_of_passed hpassed
    have hasked : fetched "/apis/cfs/v3/components" listing ∈ Event.exchanges outcome.events := by
      rw [hexchanges, List.flatMap_cons]
      exact List.mem_append_right _ (List.mem_append_left _ hfetched)
    have hreply : listing = .error (.status "/apis/cfs/v3/components" 503) :=
      reply_of_mem_exchanges hasked
    cases hbody.symm.trans hreply

end ClusterHealth.Checks.Api
