import ClusterHealth.Harness
import ClusterHealth.Proofs.Candor.BootArtifacts
import ClusterHealth.Proofs.Candor.Services
import ClusterHealth.Rehearsal.Attempts

/-! The verdict of every check matches its log, whatever its requests are answered. -/
namespace ClusterHealth.Harness
open Event (errors)

/-- The errors that a check may log and pass nevertheless. -/
def Passable (h : Harness) : Check → Log.Entry → Prop
  | .ims => Checks.Api.Informational
  | .bootArtifacts => Transfer.LacksAddress h.config.nspace
  | .bos | .crus | .cfs | .conman | .vcs => fun _ => False

theorem check_candid (h : Harness) (check : Check) (includeCommands : Bool) :
    (h.check check includeCommands).Candid (h.Passable check) id := by
  cases check with
  | bos => exact Checks.bos_candid
  | cfs => exact Checks.cfs_candid ..
  | conman => exact Checks.conman_candid _
  | crus => exact Checks.crus_candid
  | ims => exact Checks.ims_candid ..
  | bootArtifacts => exact h.bootArtifacts.check_candid
  | vcs => exact Checks.vcs_candid

theorem check_matches_log (h : Harness) (check : Check) (includeCommands : Bool)
    (answer : (r : Request) → σ → Reply r × σ) (state : σ) :
    let outcome := (h.check check includeCommands).run answer state
    match check with
    | .bos | .crus | .cfs | .conman | .vcs => outcome.value = true ↔ errors outcome.events = []
    | .ims =>
      (outcome.value = false → errors outcome.events ≠ []) ∧
      (outcome.value = true → ∀ entry ∈ errors outcome.events, Checks.Api.Informational entry)
    | .bootArtifacts =>
      (outcome.value = false → errors outcome.events ≠ []) ∧
      (outcome.value = true →
        ∀ entry ∈ errors outcome.events, Transfer.LacksAddress h.config.nspace entry) := by
  intro outcome
  obtain ⟨hgood, hbad⟩ := (h.check_candid check includeCommands).always.run answer state
  have hfalse (hvalue : outcome.value = false) : errors outcome.events ≠ [] :=
    (hbad hvalue).resolve_left id
  have hstrict (hnone : ∀ entry, ¬h.Passable check entry) :
      outcome.value = true ↔ errors outcome.events = [] := by
    constructor
    · intro hvalue
      refine List.eq_nil_iff_forall_not_mem.2 fun entry hentry => ?_
      exact hnone entry ((hgood hvalue).2 entry hentry)
    · intro hempty
      rw [← Bool.not_eq_false]
      exact fun hvalue => hfalse hvalue hempty
  cases check with
  | bos | cfs | conman | crus | vcs => exact hstrict fun _ => id
  | ims | bootArtifacts => exact ⟨hfalse, fun hvalue => (hgood hvalue).2⟩

/-- A cluster whose image service has its pod and its claim, but serves nothing except maybe the
list of recipes. -/
def imageService (recipes : Except ApiError Json) : (r : Request) → Reply r
  | .listPods _ "cray-ims" => .ok [⟨"cray-ims-0", .running, [], []⟩]
  | .listPods .. => .ok []
  | .claimPhase .. => .ok "Bound"
  | .getJson "/apis/ims/recipes" => recipes
  | r => Rehearsal.refusal r

theorem check_matches_log_of_images :
    let outcome (recipes : Except ApiError Json) :=
      (Harness.check ⟨.default, .octet⟩ .ims false).run (fun r s => (imageService recipes r, s)) ()
    let listed := outcome (.ok (.array []))
    let refused := outcome (.error (.status "/apis/ims/recipes" 503))
    listed.value = true ∧ (errors listed.events).length = 6 ∧
      (∀ entry ∈ errors listed.events, Checks.Api.Informational entry) ∧
      refused.value = false ∧ errors refused.events ≠ [] := by
  intro outcome listed refused
  have matches_log (recipes : Except ApiError Json) :=
    check_matches_log ⟨.default, .octet⟩ .ims false (fun r s => (imageService recipes r, s)) ()
  have hlisted : listed.value = true := by decide +kernel
  have hrefused : refused.value = false := by decide +kernel
  exact ⟨hlisted, by decide +kernel, (matches_log _).2 hlisted, hrefused,
    (matches_log _).1 hrefused⟩

end ClusterHealth.Harness
