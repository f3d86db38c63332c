import ClusterHealth.Checks.Api
import ClusterHealth.Checks.CommandLists
import ClusterHealth.Checks.Pods

/-! The image service: its pod and claim, the pods that import recipes, and its lists. -/
namespace ClusterHealth.Checks
namespace Ims

def initContainer : String := "init-ims"

/-- The value of a variable that is set once and not to nothing. -/
def singleValue (pod : String) (container : Container) (key : String) :
    Procedure (Option String) := do
  match (container.env.filter (·.1 == key)).map (·.2) with
  | [] =>
    .error "Variable not found in init-ims container" [("pod", pod), ("var", key)]
    return none
  | value :: others =>
    if value.isEmpty then
      .error "Variable in init-ims container exists but is blank"
        [("pod", pod), ("var", key)]
      return none
    match others with
    | [] => return some value
    | other :: _ =>
      .error "Variable in init-ims container is set multiple times"
        [("pod", pod), ("var", key), ("first", value), ("second", other)]
      return none

/-- The recipe that a pod imports, as the variables of its one initial container say. -/
def recipeOfPod (pod : Pod) : Procedure (Option Recipe) := do
  match pod.containers.filter (·.name == initContainer) with
  | [] =>
    .error "No init-ims container found in pod" [("pod", pod.name)]
    return none
  | [container] =>
    let name ← singleValue pod.name container "RECIPE_NAME"
    let distro ← singleValue pod.name container "RECIPE_LINUX_DISTRIBUTION"
    return do some ⟨← name, ← distro⟩
  | _ =>
    .error "Multiple init-ims containers found in pod" [("pod", pod.name)]
    return none

/-- Judges a pod that bears the name of the expected recipe and has not ended well: it fails unless
it imports another recipe. -/
def ownPodOk (expected : Recipe) (pod : Pod) : Procedure Bool := do
  match ← recipeOfPod pod with
  | none => return false
  | some built =>
    let subject :=
      [("pod", pod.name), ("phase", pod.phase.text), ("recipe", built.text)]
    if built = expected then
      .reject "Default recipe pod should have phase Succeeded" subject
    else
      if built.name = expected.name then
        .warn "Pod recipe matches the default recipe name with a different distro"
          [("pod", pod.name), ("pod_distro", built.distro), ("expected_distro", expected.distro)]
      .warn "Pod is not for the default recipe, so its phase is only a warning" subject
      return true

/-- Judges a pod that has not ended well. -/
def unfinishedPodOk (recipe : Option Recipe) (pod : Pod) : Procedure Bool :=
  match recipe.filter (·.ownsInitPod pod.name) with
  | some expected => ownPodOk expected pod
  | none => do
    .warn "Pod has not Succeeded, but it is not for the default recipe"
      [("pod", pod.name), ("phase", pod.phase.text)]
    return true

def initPodsOk (nspace : String) (recipe : Option Recipe) : Procedure Bool := do
  let (pods, listed) ← podsByName nspace "cray-init-recipe" (.atLeast 0)
  if !listed then return false
  if pods.isEmpty then
    .warn "No cray-init-recipe pods found" []
    return true
  .forAll (pods.filter (·.phase ≠ .succeeded)) (unfinishedPodOk recipe)

def podsOk (nspace : String) : Procedure Bool := do
  let (pods, counted) ← podsByName nspace "cray-ims" (.exactly 1)
  let healthy ← podsHealthy pods
  return counted && healthy

def commandLists : List String := ["images", "recipes", "public-keys"]

end Ims

def ims (nspace cray : String) (recipe : Option Recipe) (includeCommands : Bool) :
    Procedure Bool := do
  let pods ← Ims.podsOk nspace
  let bound ← claimBound nspace "cray-ims-data-claim"
  let inits ← Ims.initPodsOk nspace recipe
  let api ← Api.ims recipe
  let commands ← if includeCommands then listsAreArrays cray "ims" Ims.commandLists
    else pure true
  return pods && bound && inits && api && commands

end ClusterHealth.Checks
