import ClusterHealth.Harness
import ClusterHealth.Proofs.Exchanges
import ClusterHealth.Proofs.Requests.Services
import ClusterHealth.Rehearsal.Attempts

/-! A diagnosis is complete: what most checks ask for depends on the names of their pods only, never
on what has failed so far, and command lists are asked for behind everything else. -/
namespace ClusterHealth
open Procedure
open Event (requests)

/-- What commands print. -/
def Event.outputs (events : List Event) : List (Except ExecError String) :=
  events.filterMap fun
    | .exchanged (.exec ..) reply => some reply
    | _ => none

@[simp] theorem Event.outputs_append (first second : List Event) :
    outputs (first ++ second) = outputs first ++ outputs second := by
  simp [outputs]

theorem Event.outputs_eq (events : List Event) :
    outputs events = (exchanges events).filterMap fun
      | ⟨.exec .., reply⟩ => some reply
      | _ => none := by
  rw [outputs, exchanges, List.filterMap_filterMap]
  congr 1
  funext event
  cases event with
  | logged entry => rfl
  | exchanged r reply => cases r <;> rfl

namespace Checks
open Event (outputs)

/-- A command prints an array. -/
def PrintsArray : Except ExecError String → Prop
  | .error _ => False
  | .ok output => ∃ items, Json.parse? output = some (.array items)

/-- What the command line answers to the request for a list. -/
def printed (cray service resource : String) (output : Except ExecError String) : Exchange :=
  ⟨.exec .host cray [service, resource, "list", "--format", "json"], output⟩

theorem listIsArray_exchanges (cray service resource : String) :
    (listIsArray cray service resource).Exchanges fun exchanged passed =>
      ∃ output, exchanged = [printed cray service resource output] ∧
        (passed = true ↔ PrintsArray output) := by
  refine exchanges_request_bind.2 fun output => ?_
  cases output with
  | error e => exact ⟨_, rfl, iff_of_false Bool.false_ne_true not_false⟩
  | ok text =>
    dsimp only
    split
    · rename_i items hitems
      exact ⟨_, rfl, iff_of_true rfl ⟨items, hitems⟩⟩
    · rename_i body hother hbody
      refine ⟨_, rfl, iff_of_false Bool.false_ne_true fun harray => ?_⟩
      obtain ⟨items, hitems⟩ := harray
      exact hother items (Option.some.inj (hbody.symm.trans hitems))
    · rename_i hbody
      refine ⟨_, rfl, iff_of_false Bool.false_ne_true fun harray => ?_⟩
      obtain ⟨items, hitems⟩ := harray
      exact Option.some_ne_none _ (hitems.symm.trans hbody)

theorem listIsArray_always (cray service resource : String) :
    (listIsArray cray service resource).Always fun events value =>
      value = true ↔ ∀ output ∈ outputs events, PrintsArray output := by
  refine Always.mono (listIsArray_exchanges cray service resource) fun events passed h => ?_
  obtain ⟨output, hexchanged, hpassed⟩ := h
  rw [Event.outputs_eq, hexchanged, hpassed]
  exact List.forall_mem_singleton.symm

theorem listsAreArrays_always (cray service : String) (resources : List String) :
    (listsAreArrays cray service resources).Always fun events value =>
      value = true ↔ ∀ output ∈ outputs events, PrintsArray output := by
  induction resources with
  | nil => exact ⟨fun _ => List.forall_mem_nil _, fun _ => rfl⟩
  | cons resource rest ih =>
    refine Always.bind ((listIsArray_always cray service resource).mono fun early a ha => ?_)
    refine Always.bind (ih.mono fun late b hb => ?_)
    rw [always_pure, List.append_nil, Event.outputs_append, List.forall_mem_append, ← ha, ← hb]
    exact Bool.and_eq_true_iff

end Checks

/-- How the pods are named that decide on what a check asks for. -/
def Check.stem? : Check → Option String
  | .bos => some "cray-bos"
  | .conman => some "cray-conman"
  | .crus => some "cray-crus"
  | .ims => some "cray-ims"
  | .vcs => some "gitea-vcs"
  | .cfs | .bootArtifacts => none

namespace Harness
open Checks

/-- What a check asks for once its pods are listed. -/
def inquiries (h : Harness) (names : List String) : Check → List Request
  | .bos =>
    EtcdService.memberClaims "cray-bos-etcd-" h.config.nspace names ++
      Api.bosPaths.map .getJson
  | .conman => [.claimPhase h.config.nspace "cray-conman-data-claim"]
  | .crus => EtcdService.memberClaims "cray-crus-etcd-" h.config.nspace names
  | .ims =>
    .claimPhase h.config.nspace "cray-ims-data-claim" ::
      .listPods h.config.nspace "cray-init-recipe" :: Api.imsPaths.map .getJson
  | .vcs =>
    .claimPhase h.config.nspace "gitea-vcs-data-claim" ::
      Vcs.postgresClaims h.config.nspace names
  | .cfs | .bootArtifacts => []

/-- What a check asks the command line of its service for. -/
def commands (h : Harness) : Check → List Request
  | .cfs => ["configurations", "sources"].map (listCommand h.config.tools.cray "cfs")
  | .ims => ["images", "recipes", "public-keys"].map (listCommand h.config.tools.cray "ims")
  | .bos | .conman | .crus | .vcs | .bootArtifacts => []

variable (h : Harness) {check : Check}

theorem check_makesAfter {stem : String} (hstem : check.stem? = some stem) :
    (h.check check false).MakesAfter (.listPods h.config.nspace stem) fun reply =>
      h.inquiries (listedNames reply) check := by
  cases check with
  | bos =>
    cases hstem
    exact bos_makesAfter
  | conman =>
    cases hstem
    exact conman_makesAfter _
  | crus =>
    cases hstem
    exact crus_makesAfter
  | ims =>
    cases hstem
    exact ims_makesAfter _ _
  | vcs =>
    cases hstem
    exact vcs_makesAfter
  | cfs | bootArtifacts => cases hstem

/-- Checks that can ask a command line do so behind everything else. -/
theorem check_commands (hcheck : check = .cfs ∨ check = .ims) :
    ∃ commands : Procedure Bool, h.check check true = both (h.check check false) commands ∧
      commands.Makes (h.commands check) ∧
      commands.Always fun events value =>
        value = true ↔ ∀ output ∈ Event.outputs events, PrintsArray output := by
  rcases hcheck with rfl | rfl
  · exact ⟨_, cfs_commands _, listsAreArrays_makes .., listsAreArrays_always ..⟩
  · exact ⟨_, ims_commands _ _, listsAreArrays_makes .., listsAreArrays_always ..⟩

theorem check_includeCommands (hcheck : check ≠ .cfs ∧ check ≠ .ims) (includeCommands : Bool) :
    h.check check includeCommands = h.check check false := by
  obtain ⟨hcfs, hims⟩ := hcheck
  cases check with
  | cfs => exact absurd rfl hcfs
  | ims => exact absurd rfl hims
  | bos | conman | crus | vcs | bootArtifacts => rfl

theorem commands_eq_nil (hcheck : check ≠ .cfs ∧ check ≠ .ims) : h.commands check = [] := by
  obtain ⟨hcfs, hims⟩ := hcheck
  cases check with
  | cfs => exact absurd rfl hcfs
  | ims => exact absurd rfl hims
  | bos | conman | crus | vcs | bootArtifacts => rfl

theorem check_requests {stem : String} (hstem : check.stem? = some stem) (includeCommands : Bool)
    (answer : (r : Request) → σ → Reply r × σ) (state : σ) :
    let listed := Request.listPods h.config.nspace stem
    requests ((h.check check includeCommands).run answer state).events =
      listed :: (h.inquiries (listedNames (answer listed state).1) check ++
        if includeCommands then h.commands check else []) := by
  have hplain := h.check_makesAfter hstem
  cases includeCommands with
  | false => exact (hplain.run answer state).trans (congrArg _ (List.append_nil _).symm)
  | true =>
    by_cases hcheck : check = .cfs ∨ check = .ims
    · obtain ⟨commands, hboth, hcommands, -⟩ := h.check_commands hcheck
      rw [hboth]
      exact (hplain.bind fun _ => hcommands.ends fun _ => onlyLogs_pure _).run answer state
    · rw [h.check_includeCommands (not_or.1 hcheck), h.commands_eq_nil (not_or.1 hcheck)]
      exact (hplain.run answer state).trans (congrArg _ (List.append_nil _).symm)

/-- The requests are the same in two surroundings in which the pods have the same names, however
else they differ. Commands are asked for behind everything else, whatever came before, and count for
the verdict if they are. -/
theorem check_diagnosis (check : Check) (answer : (r : Request) → σ → Reply r × σ) (state : σ) :
    let plain := (h.check check false).run answer state
    let full := (h.check check true).run answer state
    (∀ stem includeCommands, check.stem? = some stem →
      let listed := Request.listPods h.config.nspace stem
      let names := listedNames (answer listed state).1
      let made := requests ((h.check check includeCommands).run answer state).events
      made = listed :: (h.inquiries names check ++
        if includeCommands then h.commands check else []) ∧
      ∀ (τ : Type) (answer' : (r : Request) → τ → Reply r × τ) (state' : τ),
        listedNames (answer' listed state').1 = names →
          requests ((h.check check includeCommands).run answer' state').events = made) ∧
    (check = .cfs ∨ check = .ims →
      ∃ rest, full.events = plain.events ++ rest ∧ requests rest = h.commands check ∧
        (full.value = true ↔
          plain.value = true ∧ ∀ output ∈ Event.outputs rest, PrintsArray output)) ∧
    (check ≠ .cfs ∧ check ≠ .ims → h.check check true = h.check check false) := by
  intro plain full
  refine ⟨fun stem includeCommands hstem => ?_, fun hcheck => ?_, fun hcheck => ?_⟩
  · intro listed names made
    have hmade := h.check_requests hstem includeCommands answer state
    refine ⟨hmade, fun τ answer' state' hnames => ?_⟩
    rw [h.check_requests hstem includeCommands answer' state', hnames]
    exact hmade.symm
  · obtain ⟨commands, hboth, hmakes, hprints⟩ := h.check_commands hcheck
    have hfull : full = _ := congrArg (·.run answer state) hboth
    rw [run_both] at hfull
    refine ⟨_, congrArg (·.events) hfull, Always.run hmakes answer plain.state, ?_⟩
    rw [hfull, Bool.and_eq_true]
    exact and_congr_right fun _ => Always.run hprints answer plain.state
  · exact h.check_includeCommands hcheck true

/-- A cluster in which only pods with these names and claims can be seen. -/
def cluster (names : List String) (phase : Phase) (claims : Except LookupError String) :
    (r : Request) → Unit → Reply r × Unit
  | .listPods .., _ => (.ok (names.map fun name => ⟨name, phase, [], []⟩), ())
  | .claimPhase .., _ => (claims, ())
  | r, _ => (Rehearsal.refusal r, ())

/-- Version control asks the same in good and in ill health. The other two checks ask for all there
is to ask, although everything has failed. -/
theorem check_diagnosis_amid_failures :
    let run (check : Check) (names : List String) (phase : Phase)
        (claims : Except LookupError String) :=
      (Harness.check ⟨.default, .octet⟩ check true).run (cluster names phase claims) ()
    let git := run .vcs ["gitea-vcs-0", "gitea-vcs-postgres-0"]
    let well := git .running (.ok "Bound")
    let ill := git .failed (.error (.queryFailed "refused"))
    let bos := run .bos ["cray-bos-0", "cray-bos-etcd-b", "cray-bos-etcd-a"] .failed
      (.error (.queryFailed "refused"))
    let ims := run .ims [] .failed (.error (.queryFailed "refused"))
    (well.value = true ∧ ill.value = false ∧ requests ill.events = requests well.events) ∧
    requests bos.events =
      [.listPods "services" "cray-bos", .claimPhase "services" "cray-bos-etcd-b",
        .claimPhase "services" "cray-bos-etcd-a", .getJson "/apis/bos/", .getJson "/apis/bos/v1",
        .getJson "/apis/bos/v1/version", .getJson "/apis/bos/v2", .getJson "/apis/bos/v2/version",
        .getJson "/apis/bos/v1/healthz", .getJson "/apis/bos/v2/healthz",
        .getJson "/apis/bos/v2/options", .getJson "/apis/bos/v1/sessiontemplatetemplate",
        .getJson "/apis/bos/v2/sessiontemplatetemplate", .getJson "/apis/bos/v2/components",
        .getJson "/apis/bos/v1/sessiontemplate", .getJson "/apis/bos/v2/sessiontemplates",
        .getJson "/apis/bos/v1/session", .getJson "/apis/bos/v2/sessions"] ∧
    requests ims.events =
      [.listPods "services" "cray-ims", .claimPhase "services" "cray-ims-data-claim",
        .listPods "services" "cray-init-recipe", .getJson "/apis/ims/recipes",
        .getJson "/apis/ims/healthz/live", .getJson "/apis/ims/healthz/ready",
        .getJson "/apis/ims/version", .getJson "/apis/ims/images", .getJson "/apis/ims/jobs",
        .getJson "/apis/ims/public-keys",
        .exec .host "cray" ["ims", "images", "list", "--format", "json"],
        .exec .host "cray" ["ims", "recipes", "list", "--format", "json"],
        .exec .host "cray" ["ims", "public-keys", "list", "--format", "json"]] := by
  intro run git well ill bos ims
  have diagnosis (check : Check) (names : List String) (phase : Phase)
      (claims : Except LookupError String) :=
    (check_diagnosis ⟨.default, .octet⟩ check (cluster names phase claims) ()).1
  refine ⟨⟨by decide +kernel, by decide +kernel, ?_⟩, ?_, ?_⟩
  · exact (diagnosis .vcs _ .running (.ok "Bound") "gitea-vcs" true rfl).2 Unit _ () rfl
  · exact (diagnosis .bos _ .failed _ "cray-bos" true rfl).1
  · exact (diagnosis .ims _ .failed _ "cray-ims" true rfl).1

end Harness
end ClusterHealth
