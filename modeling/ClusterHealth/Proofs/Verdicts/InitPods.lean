import ClusterHealth.Checks.Ims
import ClusterHealth.Proofs.Verdicts
import ClusterHealth.Proofs.Runs
import ClusterHealth.Proofs.Text.Names
import ClusterHealth.Rehearsal.Attempts
import Mathlib.Data.Multiset.Count

/-!
Pods that import recipes into the image service. One that has not ended well is a failure only if it
bears the name of the expected recipe and is not known to import another one.
-/
namespace ClusterHealth.Checks.Ims
open Procedure

theorem filter_eq_singleton_iff {p : α → Bool} {l : List α} {a : α} :
    l.filter p = [a] ↔ l.countP p = 1 ∧ a ∈ l ∧ p a = true := by
  rw [List.countP_eq_length_filter, ← List.mem_filter]
  constructor
  · intro h
    rw [h]
    exact ⟨rfl, List.mem_singleton_self a⟩
  · intro h
    obtain ⟨hone, hmem⟩ := h
    obtain ⟨b, hb⟩ := List.length_eq_one_iff.1 hone
    rw [hb] at hmem ⊢
    rw [List.mem_singleton.1 hmem]

/-- A variable is set exactly once, and not to nothing. -/
structure SetOnce (env : Multiset (String × String)) (key value : String) : Prop where
  once : env.countP (·.1 = key) = 1
  set : (key, value) ∈ env
  nonempty : value ≠ ""

theorem setOnce_iff {env : List (String × String)} {key value : String} :
    SetOnce env key value ↔ (env.filter (·.1 == key)).map (·.2) = [value] ∧ value ≠ "" := by
  have hfilter : (env.filter (·.1 == key)).map (·.2) = [value] ↔
      env.filter (·.1 == key) = [(key, value)] := by
    rw [List.map_eq_singleton_iff]
    constructor
    · intro h
      obtain ⟨⟨k, v⟩, hone, rfl⟩ := h
      have hkey : (k == key) = true := (filter_eq_singleton_iff.1 hone).2.2
      rw [hone, beq_iff_eq.1 hkey]
    · intro h
      exact ⟨(key, value), h, rfl⟩
  rw [hfilter, filter_eq_singleton_iff]
  constructor
  · intro h
    exact ⟨⟨h.once, h.set, beq_self_eq_true key⟩, h.nonempty⟩
  · intro h
    obtain ⟨⟨honce, hset, -⟩, hvalue⟩ := h
    exact ⟨honce, hset, hvalue⟩

theorem singleValue_always (pod : String) (container : Container) (key : String) :
    (singleValue pod container key).Always fun _ found =>
      ∀ value, found = some value ↔ SetOnce container.env key value := by
  simp only [setOnce_iff]
  unfold singleValue
  split
  · rename_i hnone
    simp only [hnone]
    refine fun value => iff_of_false (Option.some_ne_none value).symm ?_
    simp
  · rename_i value others hvalues
    simp only [hvalues]
    split
    · rename_i hblank
      refine fun other => iff_of_false (Option.some_ne_none other).symm fun h => ?_
      obtain ⟨hone, hother⟩ := h
      obtain ⟨rfl, -⟩ := List.cons.inj hone
      exact hother (String.isEmpty_iff.1 hblank)
    · rename_i hblank
      split
      · intro other
        rw [Option.some.injEq, List.cons.injEq]
        constructor
        · intro h
          subst h
          exact ⟨⟨rfl, rfl⟩, mt String.isEmpty_iff.2 hblank⟩
        · exact fun h => h.1.1
      · refine fun other => iff_of_false (Option.some_ne_none other).symm ?_
        simp

/-- There is exactly one initial container, whose environment sets the name and the distribution of
the recipe once each. -/
def Imports (pod : Pod) (recipe : Recipe) : Prop :=
  pod.containers.countP (·.name = "init-ims") = 1 ∧
    ∃ container ∈ pod.containers, container.name = "init-ims" ∧
      SetOnce container.env "RECIPE_NAME" recipe.name ∧
      SetOnce container.env "RECIPE_LINUX_DISTRIBUTION" recipe.distro

theorem imports_iff {pod : Pod} {recipe : Recipe} : Imports pod recipe ↔
    ∃ container, pod.containers.filter (·.name == initContainer) = [container] ∧
      SetOnce container.env "RECIPE_NAME" recipe.name ∧
      SetOnce container.env "RECIPE_LINUX_DISTRIBUTION" recipe.distro := by
  simp only [filter_eq_singleton_iff]
  constructor
  · intro h
    obtain ⟨hone, container, hmem, hname, hset⟩ := h
    exact ⟨container, ⟨hone, hmem, beq_iff_eq.2 hname⟩, hset⟩
  · intro h
    obtain ⟨container, ⟨hone, hmem, hname⟩, hset⟩ := h
    exact ⟨hone, container, hmem, beq_iff_eq.1 hname, hset⟩

theorem recipeOfPod_always (pod : Pod) :
    (recipeOfPod pod).Always fun _ found => ∀ recipe, found = some recipe ↔ Imports pod recipe := by
  simp only [imports_iff]
  unfold recipeOfPod
  split
  · rename_i hnone
    simp only [hnone]
    exact fun recipe => iff_of_false nofun nofun
  · rename_i container hone
    simp only [hone]
    refine Always.bind ((singleValue_always ..).mono fun _ name hname => ?_)
    refine Always.bind ((singleValue_always ..).mono fun _ distro hdistro => ?_)
    intro recipe
    have hparts : (do some (⟨← name, ← distro⟩ : Recipe)) = some recipe ↔
        name = some recipe.name ∧ distro = some recipe.distro := by
      obtain ⟨n, d⟩ := recipe
      cases name <;> cases distro <;> simp
    rw [hname, hdistro] at hparts
    exact hparts.trans (by simp)
  · rename_i hseveral
    refine fun recipe => iff_of_false nofun fun h => ?_
    obtain ⟨container, hone, -⟩ := h
    exact hseveral container hone

/-- It is known which recipe a pod imports, and that is not the expected one. -/
def ImportsOther (expected : Recipe) (pod : Pod) : Prop :=
  ∃ built, Imports pod built ∧ built ≠ expected

theorem not_importsOther_iff {expected : Recipe} {pod : Pod} {found : Option Recipe}
    (hfound : ∀ recipe, found = some recipe ↔ Imports pod recipe) :
    ¬ImportsOther expected pod ↔ found = none ∨ found = some expected := by
  unfold ImportsOther
  simp only [← hfound]
  cases found with
  | none => simp
  | some built => simp

theorem ownPodOk_decides (expected : Recipe) (pod : Pod) :
    (ownPodOk expected pod).Decides (ImportsOther expected pod) := by
  refine Always.bind ((recipeOfPod_always pod).mono fun _ found hfound => ?_)
  cases found with
  | none =>
    have hnone : ¬ImportsOther expected pod := (not_importsOther_iff hfound).2 (.inl rfl)
    exact iff_of_false Bool.false_ne_true hnone
  | some built =>
    have hbuilt : Imports pod built := (hfound built).1 rfl
    dsimp only
    split
    · rename_i hsame
      have hno : ¬ImportsOther expected pod :=
        (not_importsOther_iff hfound).2 (.inr (congrArg some hsame))
      exact (decides_reject ..).congr (iff_of_false not_false hno)
    · rename_i hother
      have hpassed : true = true ↔ ImportsOther expected pod :=
        iff_of_true rfl ⟨built, hbuilt, hother⟩
      split
      · exact hpassed
      · exact hpassed

theorem unfinishedPodOk_decides (recipe : Option Recipe) (pod : Pod) :
    (unfinishedPodOk recipe pod).Decides (∀ expected, recipe = some expected →
      expected.ownsInitPod pod.name = true → ImportsOther expected pod) := by
  unfold unfinishedPodOk
  split
  · rename_i expected hexpected
    obtain ⟨rfl, howns⟩ := Option.filter_eq_some_iff.1 hexpected
    refine (ownPodOk_decides expected pod).congr ⟨fun h => ?_, fun h => h expected rfl howns⟩
    rintro _ ⟨⟩ -
    exact h
  · rename_i hnone
    refine decides_true.congr (iff_of_true trivial fun expected hexpected howns => ?_)
    have hfound : recipe.filter (·.ownsInitPod pod.name) = some expected :=
      Option.filter_eq_some_iff.2 ⟨hexpected, howns⟩
    exact absurd (hnone.symm.trans hfound) nofun

theorem initPodsOk_run (nspace : String) (recipe : Option Recipe)
    (answer : (r : Request) → σ → Reply r × σ) (state : σ) :
    ((initPodsOk nspace recipe).run answer state).value = true ↔
      ∃ pods, (answer (.listPods nspace "cray-init-recipe") state).1 = .ok pods ∧
        ∀ pod ∈ pods, pod.phase ≠ .succeeded → ∀ expected, recipe = some expected →
          expected.ownsInitPod pod.name = true → ImportsOther expected pod := by
  unfold initPodsOk podsByName
  rw [LawfulMonad.bind_assoc, run_request_bind]
  generalize answer (.listPods nspace "cray-init-recipe") state = reply
  obtain ⟨listing, next⟩ := reply
  cases listing with
  | error e => exact iff_of_false Bool.false_ne_true nofun
  | ok pods =>
    have hall : (forAll (pods.filter (·.phase ≠ .succeeded)) (unfinishedPodOk recipe)).Decides _ :=
      decides_forAll fun pod _ => unfinishedPodOk_decides recipe pod
    simp only [List.mem_filter, decide_eq_true_eq, and_imp] at hall
    have hadmits : (PodCount.atLeast 0).admits pods.length = true := rfl
    simp only [if_pos hadmits, pure_bind, Bool.not_true, Bool.false_eq_true, if_false,
      Except.ok.injEq, exists_eq_left']
    cases pods with
    | nil => exact iff_of_true rfl (List.forall_mem_nil _)
    | cons pod rest => exact hall.run answer next

/-- Whether a variable says which recipe is imported. -/
def namesRecipe (entry : String × String) : Bool :=
  entry.1 ∈ ["RECIPE_NAME", "RECIPE_LINUX_DISTRIBUTION"]

/-- What the initial containers of a pod say of a recipe, without any order. -/
def declarations (pod : Pod) : Multiset (Multiset (String × String)) :=
  ((pod.containers.filter (·.name == initContainer)).map fun container =>
    (container.env.filter namesRecipe : Multiset (String × String)) :
      List (Multiset (String × String)))

theorem setOnce_filter {env : List (String × String)} {key value : String}
    (hkey : ∀ value, namesRecipe (key, value) = true) :
    SetOnce (env.filter namesRecipe : List (String × String)) key value ↔
      SetOnce env key value := by
  simp only [setOnce_iff, List.filter_filter]
  have hfilter : (fun v : String × String => v.1 == key && namesRecipe v) = (·.1 == key) := by
    funext v
    by_cases h : v.1 = key
    · subst h
      simp [hkey]
    · simp [h]
  rw [hfilter]

theorem imports_iff_declarations {pod : Pod} {recipe : Recipe} :
    Imports pod recipe ↔ ∃ env, declarations pod = {env} ∧
      SetOnce env "RECIPE_NAME" recipe.name ∧
      SetOnce env "RECIPE_LINUX_DISTRIBUTION" recipe.distro := by
  have hname (value : String) : namesRecipe ("RECIPE_NAME", value) = true := rfl
  have hdistro (value : String) : namesRecipe ("RECIPE_LINUX_DISTRIBUTION", value) = true := rfl
  rw [imports_iff]
  constructor
  · intro h
    obtain ⟨container, hone, hsets⟩ := h
    refine ⟨(container.env.filter namesRecipe : List (String × String)), ?_, ?_⟩
    · rw [declarations, hone]
      rfl
    · rwa [setOnce_filter hname, setOnce_filter hdistro]
  · intro h
    obtain ⟨env, henv, hsets⟩ := h
    rw [declarations, Multiset.coe_eq_singleton, List.map_eq_singleton_iff] at henv
    obtain ⟨container, hone, rfl⟩ := henv
    rw [setOnce_filter hname, setOnce_filter hdistro] at hsets
    exact ⟨container, hone, hsets⟩

/-- The check fails if the pods cannot be listed, or if one that has not ended well bears the name
of the expected recipe and imports that very recipe, or none that is known. What is known depends on
nothing but the variables of initial containers that name a recipe. -/
theorem initPodsOk_verdict (nspace : String) (recipe : Option Recipe)
    (answer : (r : Request) → σ → Reply r × σ) (state : σ) :
    let listing := (answer (.listPods nspace "cray-init-recipe") state).1
    let passed (recipe : Option Recipe) := ((initPodsOk nspace recipe).run answer state).value
    let built (pod : Pod) := ((recipeOfPod pod).run answer state).value
    (passed recipe = false ↔ (∃ e, listing = .error e) ∨
      ∃ pods expected, listing = .ok pods ∧ recipe = some expected ∧
        ∃ pod ∈ pods, pod.phase ≠ .succeeded ∧
          (∃ rest, pod.name = s!"cray-init-recipe-{expected.name}-" ++ rest) ∧
          (built pod = none ∨ built pod = some expected)) ∧
    (passed none = false ↔ ∃ e, listing = .error e) ∧
    (∀ pod recipe, built pod = some recipe ↔ Imports pod recipe) ∧
    ∀ pod other, declarations pod = declarations other → built pod = built other := by
  intro listing passed built
  have hbuilt (pod : Pod) : ∀ recipe, built pod = some recipe ↔ Imports pod recipe :=
    (recipeOfPod_always pod).run answer state
  have hblamed (expected : Recipe) (pod : Pod) :
      ¬ImportsOther expected pod ↔ built pod = none ∨ built pod = some expected :=
    not_importsOther_iff (hbuilt pod)
  have hfails (recipe : Option Recipe) : passed recipe = false ↔ (∃ e, listing = .error e) ∨
      ∃ pods expected, listing = .ok pods ∧ recipe = some expected ∧
        ∃ pod ∈ pods, pod.phase ≠ .succeeded ∧ expected.ownsInitPod pod.name = true ∧
          ¬ImportsOther expected pod := by
    rw [← Bool.not_eq_true, initPodsOk_run]
    change ¬(∃ pods, listing = .ok pods ∧ _) ↔ _
    cases listing with
    | error e => exact iff_of_true nofun (.inl ⟨e, rfl⟩)
    | ok pods =>
      cases recipe with
      | none => simp
      | some expected => simp [not_forall]
  refine ⟨?_, ?_, hbuilt, fun pod other hsame => ?_⟩
  · simp only [hfails, hblamed, Recipe.ownsInitPod, Text.startsWith_iff]
  · rw [hfails]
    simp
  · refine Option.ext fun recipe => ?_
    rw [hbuilt, hbuilt, imports_iff_declarations, imports_iff_declarations, hsame]

/-- A pod of the recipe `base`. -/
def samplePod (containers : List Container) : Pod :=
  ⟨"cray-init-recipe-base-8xk2p", .failed, [], containers⟩

/-- Its containers as they may stand in the list of pods. -/
def plainContainers : List Container :=
  [⟨"init-ims", [("RECIPE_NAME", "base"), ("RECIPE_LINUX_DISTRIBUTION", "sles15")]⟩]

def mixedContainers : List Container :=
  [⟨"upload", [("RECIPE_NAME", "other")]⟩,
    ⟨"init-ims", [("RECIPE_LINUX_DISTRIBUTION", "sles15"), ("HOME", ""), ("RECIPE_NAME", "base")]⟩]

theorem initPodsOk_verdict_of_mixed_containers :
    let answer : (r : Request) → Unit → Reply r × Unit
      | .listPods .., _ => (.ok [samplePod mixedContainers], ())
      | r, _ => (Rehearsal.refusal r, ())
    let built (pod : Pod) := ((recipeOfPod pod).run answer ()).value
    declarations (samplePod mixedContainers) = declarations (samplePod plainContainers) ∧
      built (samplePod mixedContainers) = built (samplePod plainContainers) ∧
      ((initPodsOk "services" (some ⟨"base", "sles15"⟩)).run answer ()).value = false := by
  intro answer built
  obtain ⟨hverdict, -, -, hsame⟩ :=
    initPodsOk_verdict "services" (some ⟨"base", "sles15"⟩) answer ()
  have hdeclared : declarations (samplePod mixedContainers) =
      declarations (samplePod plainContainers) := by decide
  have hbuilt := hsame _ _ hdeclared
  have hrecipe : built (samplePod plainContainers) = some ⟨"base", "sles15"⟩ := rfl
  refine ⟨hdeclared, hbuilt, hverdict.2 (.inr ?_)⟩
  exact ⟨_, _, rfl, rfl, _, List.mem_singleton_self _, by decide, ⟨"8xk2p", by decide⟩,
    .inr (hbuilt.trans hrecipe)⟩

end ClusterHealth.Checks.Ims
