import ClusterHealth.Proofs.Diagnosis
import ClusterHealth.Proofs.Verdicts.Pods

/-!
The configuration service: when it passes. Every pod of its interface and every operator is judged,
all other pods are only counted.
-/
namespace ClusterHealth.Checks
open Procedure

namespace Cfs

/-- The names of the pods in a role. -/
def Role.Names : Role → String → Prop
  | .api, name => Text.startsWith name "cray-cfs-api" = true
  | .operator, name => Text.startsWith name "cray-cfs-operator" = true

instance (role : Role) (name : String) : Decidable (role.Names name) :=
  match role with
  | .api | .operator => inferInstanceAs (Decidable (_ = true))

/-- A pod that is judged. -/
def Judged (pod : Pod) : Prop := Role.api.Names pod.name ∨ Role.operator.Names pod.name

instance (pod : Pod) : Decidable (Judged pod) := inferInstanceAs (Decidable (_ ∨ _))

/-- There are enough pods and one in each role at least, and all in a role run or have ended
well. -/
structure Healthy (pods : List Pod) : Prop where
  enough : 2 ≤ pods.length
  api : ∃ pod ∈ pods, Role.api.Names pod.name
  operator : ∃ pod ∈ pods, Role.operator.Names pod.name
  sound : ∀ pod ∈ pods, Judged pod → pod.phase = .running ∨ pod.phase = .succeeded

/-- The interface is looked for first, but no operator has the name of one. -/
theorem role?_eq_some_iff {pod : Pod} {role : Role} :
    role? pod = some role ↔ role.Names pod.name := by
  have hapart (h : Role.operator.Names pod.name) : ¬Role.api.Names pod.name := by
    have hother : Text.startsWith pod.name "cray-cfs-api" = false :=
      Text.not_startsWith_of_apart h (by decide)
    simp [Role.Names, hother]
  unfold role?
  split
  · rename_i hapi
    cases role with
    | api => exact iff_of_true rfl hapi
    | operator => exact iff_of_false nofun fun h => hapart h hapi
  · rename_i hapi
    split
    · rename_i hoperator
      cases role with
      | api => exact iff_of_false nofun hapi
      | operator => exact iff_of_true rfl hoperator
    · rename_i hoperator
      cases role with
      | api => exact iff_of_false nofun hapi
      | operator => exact iff_of_false nofun hoperator

theorem role?_eq_none_iff {pod : Pod} : role? pod = none ↔ ¬Judged pod := by
  rw [Option.eq_none_iff_forall_ne_some, Judged, ← role?_eq_some_iff, ← role?_eq_some_iff, not_or]
  constructor
  · intro h
    exact ⟨h .api, h .operator⟩
  · intro h role
    cases role with
    | api => exact h.1
    | operator => exact h.2

variable {nspace : String} {good : Exchange → Prop}

theorem podOk_weighs (pod : Pod) :
    (podOk pod).Weighs good (Judged pod → pod.phase = .running ∨ pod.phase = .succeeded) := by
  unfold podOk
  split
  · rename_i hnone
    have hother := role?_eq_none_iff.1 (Option.isNone_iff_eq_none.1 hnone)
    exact weighs_true.congr (iff_of_true trivial fun h => absurd h hother)
  · rename_i hsome
    have hjudged : Judged pod := by
      by_contra hother
      exact hsome (Option.isNone_iff_eq_none.2 (role?_eq_none_iff.2 hother))
    split
    · rename_i hsucceeded
      refine (onlyLogs_logged ..).exchanges_bind fun _ => ?_
      exact weighs_true.congr (iff_of_true trivial fun _ => .inr hsucceeded)
    · rename_i hphase
      refine (phaseIn_weighs pod [.running]).congr ?_
      simp [hjudged, hphase]

theorem roleFilled_weighs (pods : List Pod) (role : Role) :
    (roleFilled pods role).Weighs good (∃ pod ∈ pods, role.Names pod.name) := by
  refine (weighs_unless_reject ..).congr ?_
  simp only [List.any_eq_true, decide_eq_true_eq, role?_eq_some_iff]

theorem healthy_iff {pods : List Pod} : Healthy pods ↔
    (PodCount.atLeast 2).admits pods.length = true ∧
      (∀ pod ∈ pods, Judged pod → pod.phase = .running ∨ pod.phase = .succeeded) ∧
      ∀ role ∈ [Role.api, Role.operator], ∃ pod ∈ pods, role.Names pod.name := by
  rw [admits_atLeast, List.forall_mem_cons, List.forall_mem_singleton]
  constructor
  · intro h
    exact ⟨h.enough, h.sound, h.api, h.operator⟩
  · intro h
    obtain ⟨henough, hsound, hapi, hoperator⟩ := h
    exact ⟨henough, hapi, hoperator, hsound⟩

/-- Of the pods that are not judged only the number counts. -/
theorem Healthy.of_judged {pods pods' : List Pod} (h : Healthy pods)
    (hlength : pods.length = pods'.length)
    (hjudged : (pods.filter fun pod => Judged pod).Perm (pods'.filter fun pod => Judged pod)) :
    Healthy pods' := by
  have hmem {pod : Pod} (hpod : Judged pod) : pod ∈ pods ↔ pod ∈ pods' := by
    have hfiltered := hjudged.mem_iff (a := pod)
    simpa [hpod] using hfiltered
  obtain ⟨api, hapi, hnamed⟩ := h.api
  obtain ⟨operator, hoperator, hnamed'⟩ := h.operator
  refine ⟨hlength ▸ h.enough, ?_, ?_, fun pod hpod hrole => ?_⟩
  · exact ⟨api, (hmem (.inl hnamed)).1 hapi, hnamed⟩
  · exact ⟨operator, (hmem (.inr hnamed')).1 hoperator, hnamed'⟩
  · exact h.sound pod ((hmem hrole).2 hpod) hrole

theorem podsOk_weighsAfter :
    (podsOk nspace).WeighsAfter (.listPods nspace "cray-cfs") good fun listing =>
      ∃ pods, listing = .ok pods ∧ Healthy pods := by
  simp only [healthy_iff]
  refine podsByName_weighsAfter fun pods counted => ?_
  have hphases : (forAll pods podOk).Weighs good _ := weighs_forAll fun pod _ => podOk_weighs pod
  have hroles : (forAll [.api, .operator] (roleFilled pods)).Weighs good _ :=
    weighs_forAll fun role _ => roleFilled_weighs pods role
  have hpods := weighs_both (weighs_pure counted) (weighs_both hphases hroles)
  simpa only [both, pure_bind, LawfulMonad.bind_assoc, Bool.and_assoc] using hpods

/-- The pods are judged from the list alone. -/
theorem podsOk_run (nspace : String) (answer : (r : Request) → σ → Reply r × σ) (state : σ) :
    let outcome := (podsOk nspace).run answer state
    let listed := answer (.listPods nspace "cray-cfs") state
    outcome.state = listed.2 ∧
      Event.exchanges outcome.events = [⟨.listPods nspace "cray-cfs", listed.1⟩] ∧
      (outcome.value = true ↔ ∃ pods, listed.1 = .ok pods ∧ Healthy pods) := by
  intro outcome listed
  have hweighs : (podsOk nspace).WeighsAfter _ (fun _ => True) _ := podsOk_weighsAfter
  obtain ⟨rest, hexchanges, hrest, hvalue⟩ := hweighs.run podsOk_makesAfter answer state
  have hnone : rest = [] := List.map_eq_nil_iff.1 hrest
  subst hnone
  refine ⟨podsOk_makesAfter.state_run, hexchanges, hvalue.trans ?_⟩
  exact and_iff_right (List.forall_mem_nil _)

/-- What the command line is asked for, if anything. -/
def resources (includeCommands : Bool) : List String :=
  if includeCommands then ["configurations", "sources"] else []

end Cfs

theorem listsAreArrays_exchanges (cray service : String) (resources : List String) :
    (listsAreArrays cray service resources).Exchanges fun exchanged passed =>
      ∃ outputs : List (Except ExecError String), outputs.length = resources.length ∧
        exchanged = List.zipWith (printed cray service) resources outputs ∧
        (passed = true ↔ ∀ output ∈ outputs, PrintsArray output) := by
  induction resources with
  | nil => exact ⟨[], rfl, rfl, iff_of_true rfl (List.forall_mem_nil _)⟩
  | cons resource rest ih =>
    have hfirst := listIsArray_exchanges cray service resource
    refine (exchanges_both hfirst ih).mono fun exchanged passed h => ?_
    obtain ⟨_, a, _, b, rfl, rfl, ⟨output, rfl, ha⟩, outputs, hlength, rfl, hb⟩ := h
    refine ⟨output :: outputs, congrArg _ hlength, rfl, ?_⟩
    rw [List.forall_mem_cons, Bool.and_eq_true, ha, hb]

/-- What a check of the service does once its pods are judged. -/
def behindPods (cray : String) (includeCommands : Bool) : Procedure Bool :=
  .both Api.cfs (listsAreArrays cray "cfs" (Cfs.resources includeCommands))

theorem cfs_eq (nspace cray : String) (includeCommands : Bool) :
    cfs nspace cray includeCommands =
      both (Cfs.podsOk nspace) (behindPods cray includeCommands) := by
  unfold cfs behindPods
  cases includeCommands with
  | false =>
    simp only [both, LawfulMonad.bind_assoc, pure_bind, Bool.and_assoc, Bool.false_eq_true,
      if_false]
    rfl
  | true =>
    simp only [both, LawfulMonad.bind_assoc, pure_bind, Bool.and_assoc, if_true]
    rfl

section run
variable {σ : Type} (nspace cray : String) (includeCommands : Bool)
  (answer : (r : Request) → σ → Reply r × σ) (state : σ)

/-- The list of pods decides on its part of the verdict, and on nothing else. -/
theorem cfs_run :
    let outcome := (cfs nspace cray includeCommands).run answer state
    let listed := answer (.listPods nspace "cray-cfs") state
    let behind := (behindPods cray includeCommands).run answer listed.2
    Event.exchanges outcome.events =
        ⟨.listPods nspace "cray-cfs", listed.1⟩ :: Event.exchanges behind.events ∧
      (outcome.value = true ↔
        (∃ pods, listed.1 = .ok pods ∧ Cfs.Healthy pods) ∧ behind.value = true) := by
  intro outcome listed behind
  obtain ⟨hstate, hlisted, hpods⟩ := Cfs.podsOk_run nspace answer state
  have hrun : outcome = _ := congrArg (·.run answer state) (cfs_eq nspace cray includeCommands)
  rw [run_both] at hrun
  dsimp only at hrun
  rw [hstate] at hrun
  rw [hrun]
  refine ⟨?_, ?_⟩
  · rw [Event.exchanges_append, hlisted]
    rfl
  · rw [Bool.and_eq_true, hpods]

theorem behindPods_run :
    let outcome := (behindPods cray includeCommands).run answer state
    let api := Api.cfs.run answer state
    ∃ outputs : List (Except ExecError String),
      outputs.length = (Cfs.resources includeCommands).length ∧
      Event.exchanges outcome.events = Event.exchanges api.events ++
        List.zipWith (printed cray "cfs") (Cfs.resources includeCommands) outputs ∧
      (outcome.value = true ↔ api.value = true ∧ ∀ output ∈ outputs, PrintsArray output) := by
  intro outcome api
  have hcommands := listsAreArrays_exchanges cray "cfs" (Cfs.resources includeCommands)
  obtain ⟨outputs, hlength, hexchanges, hvalue⟩ := Always.run hcommands answer api.state
  have hrun : outcome = _ := run_both answer state Api.cfs _
  refine ⟨outputs, hlength, ?_, ?_⟩
  · rw [hrun, Event.exchanges_append, hexchanges]
  · rw [hrun, Bool.and_eq_true, hvalue]

end run

/-- After the pods are listed, the interfaces are checked and then the command line, if at all.
The check passes if the pods are healthy, the interfaces pass and every list that is printed is an
array. Pods in no role make no difference as long as they are equally many. -/
theorem cfs_passes_iff {σ τ : Type} (nspace cray : String) (includeCommands : Bool)
    (answer : (r : Request) → σ → Reply r × σ) (state : σ)
    (answer' : (r : Request) → τ → Reply r × τ) (state' : τ) :
    let first := (cfs nspace cray includeCommands).run answer state
    let second := (cfs nspace cray includeCommands).run answer' state'
    let listed := answer (.listPods nspace "cray-cfs") state
    let api := Api.cfs.run answer listed.2
    let resources := if includeCommands then ["configurations", "sources"] else []
    (∃ outputs : List (Except ExecError String), outputs.length = resources.length ∧
      Event.exchanges first.events = ⟨.listPods nspace "cray-cfs", listed.1⟩ ::
        (Event.exchanges api.events ++ List.zipWith (printed cray "cfs") resources outputs) ∧
      (first.value = true ↔ (∃ pods, listed.1 = .ok pods ∧ Cfs.Healthy pods) ∧
        api.value = true ∧ ∀ output ∈ outputs, PrintsArray output)) ∧
    ∀ pods pods' rest,
      Event.exchanges first.events = ⟨.listPods nspace "cray-cfs", .ok pods⟩ :: rest →
      Event.exchanges second.events = ⟨.listPods nspace "cray-cfs", .ok pods'⟩ :: rest →
      pods.length = pods'.length →
      (pods.filter fun pod => Cfs.Judged pod).Perm (pods'.filter fun pod => Cfs.Judged pod) →
      first.value = second.value := by
  intro first second listed api resources
  obtain ⟨hexchanges, hvalue⟩ := cfs_run nspace cray includeCommands answer state
  obtain ⟨hexchanges', hvalue'⟩ := cfs_run nspace cray includeCommands answer' state'
  refine ⟨?_, fun pods pods' rest hfirst hsecond hlength hjudged => ?_⟩
  · obtain ⟨outputs, hcount, hbehind, hpassed⟩ :=
      behindPods_run cray includeCommands answer listed.2
    refine ⟨outputs, hcount, ?_, ?_⟩
    · rw [hexchanges, hbehind]
      rfl
    · rw [hvalue, hpassed]
  · obtain ⟨hlisting, hrest⟩ := List.cons.inj (hexchanges.symm.trans hfirst)
    obtain ⟨hlisting', hrest'⟩ := List.cons.inj (hexchanges'.symm.trans hsecond)
    have hpods : (answer (.listPods nspace "cray-cfs") state).1 = .ok pods :=
      eq_of_heq (Sigma.mk.inj hlisting).2
    have hpods' : (answer' (.listPods nspace "cray-cfs") state').1 = .ok pods' :=
      eq_of_heq (Sigma.mk.inj hlisting').2
    have hbehind := run_value_of_exchanges (hrest.trans hrest'.symm)
    have hhealthy : Cfs.Healthy pods ↔ Cfs.Healthy pods' :=
      ⟨fun h => h.of_judged hlength hjudged, fun h => h.of_judged hlength.symm hjudged.symm⟩
    rw [Bool.eq_iff_iff, hvalue, hvalue', hpods, hpods', hbehind]
    simp only [Except.ok.injEq, exists_eq_left', hhealthy]

/-- An interface pod and an operator, and a data base in some phase. -/
def cfsPods (name : String) (phase : Phase) : List Pod :=
  [⟨"cray-cfs-api-0", .running, [], []⟩, ⟨name, phase, [], []⟩,
    ⟨"cray-cfs-operator-0", .succeeded, [], []⟩]

/-- Surroundings with these pods and empty lists. -/
def emptyLists (pods : List Pod) : (r : Request) → Unit → Reply r × Unit
  | .listPods .., _ => (.ok pods, ())
  | .getJson path, _ =>
    if path ∈ ["components", "configurations", "sessions"].map ("/apis/cfs/v2/" ++ ·) then
      (.ok (.array []), ())
    else
      (.ok (.object (("next", .null) ::
        ["components", "configurations", "sessions", "sources"].map (·, .array []))), ())
  | .exec .., _ => (.ok "[]", ())
  | r, _ => (Rehearsal.refusal r, ())

theorem cfs_passes_iff_of_failed_job :
    let run (pods : List Pod) := (cfs "services" "cray" true).run (emptyLists pods) ()
    let pods := cfsPods "cray-cfs-db-0" .running
    let pods' := cfsPods "cray-cfs-hwsync-1" .failed
    pods.filter (fun pod => Cfs.Judged pod) = pods'.filter (fun pod => Cfs.Judged pod) ∧
      (run pods).value = true ∧ (run pods').value = true := by
  intro run pods pods'
  have hjudged : pods.filter (fun pod => Cfs.Judged pod) =
      pods'.filter (fun pod => Cfs.Judged pod) := by decide
  obtain ⟨-, hsame⟩ :=
    cfs_passes_iff "services" "cray" true (emptyLists pods) () (emptyLists pods') ()
  have hpassed : (run pods).value = true := rfl
  have hvalue : (run pods).value = (run pods').value :=
    hsame pods pods' _ rfl rfl rfl (hjudged ▸ .refl _)
  exact ⟨hjudged, hpassed, hvalue.symm.trans hpassed⟩

end ClusterHealth.Checks
