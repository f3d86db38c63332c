import ClusterHealth.Procedure
import ClusterHealth.Json.Printer
import ClusterHealth.Recipe

/-!
Requests to the service interfaces, each of which has to answer with a body of a given shape. A
request that fails is logged, and the others are still made.
-/
namespace ClusterHealth.Checks.Api

def get (path : String) : Procedure (Option Json) := do
  match ← .request (.getJson path) with
  | .ok body => return some body
  | .error e =>
    .error "API request failed" [("path", path), ("error", e.message)]
    return none

/-- The fields of a body that has to be an object. -/
def object (path : String) : Procedure (Option (List (String × Json))) := do
  match ← get path with
  | none => return none
  | some (.object fields) => return some fields
  | some _ =>
    .error "Response is not a JSON object" [("path", path)]
    return none

/-- The items of a body that has to be a list. -/
def list (path : String) : Procedure (Option (List Json)) := do
  match ← get path with
  | none => return none
  | some (.array items) => return some items
  | some _ =>
    .error "Response is not a JSON list" [("path", path)]
    return none

def objects (paths : List String) : Procedure Bool :=
  .forAll paths fun path => return (← object path).isSome

def lists (paths : List String) : Procedure Bool :=
  .forAll paths fun path => return (← list path).isSome

/-! Boot orchestration. -/

def bosVersions : String := "/apis/bos/"

def bosObjects : List String := [
  "/apis/bos/v1",
  "/apis/bos/v1/version",
  "/apis/bos/v2",
  "/apis/bos/v2/version",
  "/apis/bos/v1/healthz",
  "/apis/bos/v2/healthz",
  "/apis/bos/v2/options",
  "/apis/bos/v1/sessiontemplatetemplate",
  "/apis/bos/v2/sessiontemplatetemplate"]

def bosLists : List String := [
  "/apis/bos/v2/components",
  "/apis/bos/v1/sessiontemplate",
  "/apis/bos/v2/sessiontemplates",
  "/apis/bos/v1/session",
  "/apis/bos/v2/sessions"]

def bosVersionList : Procedure Bool := do
  match ← list bosVersions with
  | none => return false
  | some versions =>
    if versions.all Json.isObject then return true
    else .reject "Version list entries must be JSON objects" [("path", bosVersions)]

def bos : Procedure Bool :=
  .both bosVersionList (.both (objects bosObjects) (lists bosLists))

/-! Configuration. -/

def cfsObjects : List String := [
  "/apis/cfs/healthz",
  "/apis/cfs/",
  "/apis/cfs/versions",
  "/apis/cfs/v2",
  "/apis/cfs/v3",
  "/apis/cfs/v2/options",
  "/apis/cfs/v3/options"]

structure Collection where
  name : String
  /-- The field that identifies an item. -/
  idField : String
  /-- Whether the older version of the interface serves the collection, too. -/
  inOlder : Bool := true

def cfsCollections : List Collection := [
  ⟨"components", "id", true⟩,
  ⟨"configurations", "name", true⟩,
  ⟨"sessions", "name", true⟩,
  ⟨"sources", "name", false⟩]

/-- One page of a list, and whether there are more. -/
structure Page where
  items : List Json
  more : Bool

/-- Reads a page: the items stand in a field of their own, next to a field `next` that is null
behind the last page and an object before. -/
def Page.ofBody (path : String) (body : Json) (field : String) : Except ApiError Page := do
  let .object fields := body
    | throw (.decode path "Response is not a JSON object")
  let some next := body.field? "next"
    | throw (.decode path "Response is missing expected 'next' field")
  let items ← match (Json.object (fields.filter (·.1 != "next"))).field? field with
    | some (.array items) => pure items
    | some _ => throw (.decode path s!"Response field '{field}' is not a list")
    | none => throw (.decode path s!"Response is missing expected '{field}' field")
  match next with
  | .null => return ⟨items, false⟩
  | .object _ => return ⟨items, true⟩
  | _ => throw (.decode path "Response field 'next' is neither null nor an object")

/-- The text that identifies the first item. -/
def firstId (path : String) (items : List Json) (idField : String) : Except ApiError String :=
  match items with
  | [] => .error (.decode path "List is empty")
  | .object fields :: _ =>
    match (Json.object fields).field? idField with
    | some (.string id) => .ok id
    | some _ => .error (.decode path s!"First item's '{idField}' field is not a string")
    | none => .error (.decode path s!"First item is missing '{idField}' field")
  | _ :: _ => .error (.decode path "First item in list is not an object")

/-- Fetches the item `id` of the list at `path`, which has to carry that name. -/
def itemByName (path idField id : String) : Procedure Bool := do
  let itemPath := s!"{path}/{id}"
  match ← object itemPath with
  | none => return false
  | some fields =>
    if ((Json.object fields).field? idField).bind Json.string? = some id then return true
    else
      .reject "cfs item has unexpected id"
        [("path", itemPath), ("field", idField), ("expected", id)]

/-- Looks the first item of a list up by its name, if there is one. -/
def firstItem (path idField : String) (items : List Json) : Procedure Bool :=
  if items.isEmpty then return true
  else
    match firstId path items idField with
    | .ok id => itemByName path idField id
    | .error e => .reject "Unable to identify first cfs item" [("error", e.message)]

def page (path field : String) : Procedure (Option Page) := do
  match ← get path with
  | none => return none
  | some body =>
    match Page.ofBody path body field with
    | .ok page => return some page
    | .error e =>
      .error "Unexpected cfs list response" [("error", e.message)]
      return none

def newerPath (c : Collection) : String := s!"/apis/cfs/v3/{c.name}"

def olderPath (c : Collection) : String := s!"/apis/cfs/v2/{c.name}"

/-- Lists a collection in the older version, which holds no more than one page. -/
def olderCollection (c : Collection) : Procedure Bool := do
  match ← list (olderPath c) with
  | none => return false
  | some items => firstItem (olderPath c) c.idField items

/-- Lists a collection in every version that serves it; the older one is left out if the newer one
reports a second page. -/
def collection (c : Collection) : Procedure Bool := do
  let page? ← page (newerPath c) c.name
  let newer ← match page? with
    | none => pure false
    | some page => firstItem (newerPath c) c.idField page.items
  if c.inOlder && !page?.any (·.more) then
    let older ← olderCollection c
    return newer && older
  else return newer

def cfs : Procedure Bool := .both (objects cfsObjects) (.forAll cfsCollections collection)

/-! Image management. -/

def imsRecipes : String := "/apis/ims/recipes"

def imsHealth : List String := ["/apis/ims/healthz/live", "/apis/ims/healthz/ready"]

def imsVersion : String := "/apis/ims/version"

def imsLists : List String := ["/apis/ims/images", "/apis/ims/jobs", "/apis/ims/public-keys"]

/-- The text of a field, if it has one. -/
def textField? (key : String) (record : Json) : Option String :=
  (record.field? key).bind Json.string?

/-- A link of null is none. -/
def hasLink (record : Json) : Bool := ((record.field? "link").filter (!·.isNull)).isSome

/-- Goes through the records that have the name of the expected recipe. Returns the one found last
that has its distribution, too, and whether all of those have links. -/
def recipeRecords (expected : Recipe) (found : Option String) :
    List Json → Procedure (Option String × Bool)
  | [] => return (found, true)
  | record :: rest => do
    let id := (textField? "id" record).getD ""
    if textField? "linux_distribution" record = some expected.distro then
      match found with
      | some first =>
        .warn "Multiple IMS records match the default recipe"
          [("recipe", expected.text), ("first", first), ("second", id)]
      | none => pure ()
      let linked ← if hasLink record then pure true
        else .reject "Recipe link should not be null" [("recipe", expected.text), ("id", id)]
      let (last, others) ← recipeRecords expected (some id) rest
      return (last, linked && others)
    else
      .warn "Found an IMS record for the default recipe with a different distro"
        [("recipe", expected.text), ("id", id),
          ("distro", ((record.field? "linux_distribution").getD .null).compact)]
      recipeRecords expected found rest

/-- Whether the expected recipe is among `records`, and every record of it has a link. -/
def recipePresent (expected : Recipe) (records : List Json) : Procedure Bool := do
  let named := records.filter fun record => textField? "name" record = some expected.name
  let (found, linked) ← recipeRecords expected none named
  match found with
  | some _ => return linked
  | none =>
    .reject "No IMS recipe record found with this name and distro" [("recipe", expected.text)]

/-- Only the list of recipes is judged; everything else is asked for the log. -/
def ims (expected : Option Recipe) : Procedure Bool := do
  let passed ← match ← list imsRecipes with
    | none => pure false
    | some records =>
      match expected with
      | none => pure true
      | some recipe => recipePresent recipe records
  let _ ← objects imsHealth
  let _ ← object imsVersion
  let _ ← lists imsLists
  return passed

end ClusterHealth.Checks.Api
