import ClusterHealth.Proofs.Requests.Services
import ClusterHealth.Proofs.Verdicts.Pods

/-!
Version control: when it passes, whatever pods it has and however these are listed. Names tell apart
jobs, backups and the data base, each in one way only.
-/
namespace ClusterHealth.Checks
open Procedure

namespace Vcs

/-- There are enough pods, one of them for the data base; jobs that wait for it are over, backups
may be at work or over, and all else runs. -/
structure Healthy (pods : List Pod) : Prop where
  enough : 2 ≤ pods.length
  stored : ∃ pod ∈ pods, Role.postgres.Names pod.name
  ended : ∀ pod ∈ pods, Role.waitJob.Names pod.name → pod.phase = .succeeded
  saved : ∀ pod ∈ pods, Role.backup.Names pod.name → pod.phase ∈ [.succeeded, .running, .pending]
  running : ∀ pod ∈ pods, ¬Role.waitJob.Names pod.name → ¬Role.backup.Names pod.name →
    pod.phase = .running

theorem mem_allowedPhases_iff (pod : Pod) : pod.phase ∈ (role pod).allowedPhases ↔
    (Role.waitJob.Names pod.name → pod.phase = .succeeded) ∧
      (Role.backup.Names pod.name → pod.phase ∈ [.succeeded, .running, .pending]) ∧
      (¬Role.waitJob.Names pod.name → ¬Role.backup.Names pod.name → pod.phase = .running) := by
  have hjob : role pod = .waitJob ↔ Role.waitJob.Names pod.name := role_eq_iff (by decide)
  have hbackup : role pod = .backup ↔ Role.backup.Names pod.name := role_eq_iff (by decide)
  rw [← hjob, ← hbackup]
  cases role pod with
  | waitJob => simp [Role.allowedPhases]
  | backup => simp [Role.allowedPhases]
  | postgres => simp [Role.allowedPhases]
  | other => simp [Role.allowedPhases]

theorem healthy_iff {pods : List Pod} :
    Healthy pods ↔ (PodCount.atLeast 2).admits pods.length = true ∧
      (∀ pod ∈ pods, pod.phase ∈ (role pod).allowedPhases) ∧
      ∃ pod ∈ pods, Role.postgres.Names pod.name := by
  simp only [admits_atLeast, mem_allowedPhases_iff]
  constructor
  · intro h
    exact ⟨h.enough, fun pod hpod => ⟨h.ended pod hpod, h.saved pod hpod, h.running pod hpod⟩,
      h.stored⟩
  · intro h
    obtain ⟨henough, hphases, hstored⟩ := h
    exact ⟨henough, hstored, fun pod hpod => (hphases pod hpod).1,
      fun pod hpod => (hphases pod hpod).2.1, fun pod hpod => (hphases pod hpod).2.2⟩

theorem Healthy.perm {pods pods' : List Pod} (h : Healthy pods) (horder : pods.Perm pods') :
    Healthy pods' := by
  have hmem {pod : Pod} (hpod : pod ∈ pods') : pod ∈ pods := horder.mem_iff.2 hpod
  refine ⟨?_, ?_, fun pod hpod => ?_, fun pod hpod => ?_, fun pod hpod => ?_⟩
  · rw [← horder.length_eq]
    exact h.enough
  · obtain ⟨pod, hpod, hname⟩ := h.stored
    exact ⟨pod, horder.mem_iff.1 hpod, hname⟩
  · exact h.ended pod (hmem hpod)
  · exact h.saved pod (hmem hpod)
  · exact h.running pod (hmem hpod)

variable {nspace : String}

theorem podOk_weighs (pod : Pod) :
    (podOk nspace pod).Weighs Bound (pod.phase ∈ (role pod).allowedPhases) :=
  claimAndPhase_weighs (fun _ => Iff.rfl) pod _

theorem countsOk_weighs {good : Exchange → Prop} (pods : List Pod) :
    (countsOk pods).Weighs good (∃ pod ∈ pods, Role.postgres.Names pod.name) := by
  have hany : pods.any (role · = .postgres) = true ↔
      ∃ pod ∈ pods, Role.postgres.Names pod.name := by
    have hrole (pod : Pod) : role pod = .postgres ↔ Role.postgres.Names pod.name :=
      role_eq_iff (by decide)
    simp only [List.any_eq_true, decide_eq_true_eq, hrole]
  -- Missing backups are only noted.
  have hnote (passed : Bool) : (do
      if !pods.any (role · = .backup) then
        .warn "No gitea-vcs-postgresql-db-backup pods found; db has not yet been backed up" []
      return passed : Procedure Bool).Weighs good (passed = true) := by
    split
    · exact (onlyLogs_logged ..).exchanges_bind fun _ => weighs_pure passed
    · exact weighs_pure passed
  unfold countsOk
  by_cases hfound : pods.any (role · = .postgres) = true
  · rw [if_pos hfound]
    exact (hnote true).congr (iff_of_true rfl (hany.1 hfound))
  · rw [if_neg hfound]
    exact (hnote false).congr (iff_of_false Bool.false_ne_true (mt hany.2 hfound))

end Vcs

theorem vcs_judges {σ : Type} (nspace : String) (answer : (r : Request) → σ → Reply r × σ)
    (state : σ) :
    Judges nspace "gitea-vcs"
      (fun names => .claimPhase nspace "gitea-vcs-data-claim" :: Vcs.postgresClaims nspace names)
      Bound Vcs.Healthy (Event.exchanges ((vcs nspace).run answer state).events)
      ((vcs nspace).run answer state).value := by
  refine judges_run ?_ vcs_makesAfter answer state
  simp only [Vcs.healthy_iff]
  refine podsByName_weighsAfter fun pods counted => ?_
  have hclaim : (claimBound nspace "gitea-vcs-data-claim").Weighs Bound True :=
    claimBound_weighs fun _ => Iff.rfl
  have hphases : (forAll pods (Vcs.podOk nspace)).Weighs Bound
      (∀ pod ∈ pods, pod.phase ∈ (Vcs.role pod).allowedPhases) :=
    weighs_forAll fun pod _ => Vcs.podOk_weighs pod
  have hpods := weighs_both (weighs_pure counted)
    (weighs_both hclaim (weighs_both hphases (Vcs.countsOk_weighs pods)))
  simpa only [both, pure_bind, LawfulMonad.bind_assoc, Bool.and_assoc, true_and] using hpods

/-- After the pods are listed, the claim of the service is asked for, and those of all pods of the
data base. The check passes if the pods are healthy and all these claims are bound. No name fits two
roles, and neither the order in which roles are tried nor that of the pods matters. -/
theorem vcs_verdict {σ τ : Type} (nspace : String)
    (answer : (r : Request) → σ → Reply r × σ) (state : σ)
    (answer' : (r : Request) → τ → Reply r × τ) (state' : τ) :
    let first := (vcs nspace).run answer state
    let second := (vcs nspace).run answer' state'
    Judges nspace "gitea-vcs"
        (fun names => .claimPhase nspace "gitea-vcs-data-claim" ::
          Vcs.postgresClaims nspace names)
        Bound Vcs.Healthy (Event.exchanges first.events) first.value ∧
      (∀ name, ∀ a b : Vcs.Role, a.Names name → b.Names name → a = b) ∧
      (∀ order : List Vcs.Role, order.Perm [.waitJob, .backup, .postgres] →
        Vcs.roleIn order = Vcs.role) ∧
      (Reordered (Event.exchanges first.events) (Event.exchanges second.events) →
        first.value = second.value) := by
  intro first second
  refine ⟨vcs_judges nspace answer state, ?_, ?_, ?_⟩
  · exact fun name a b ha hb => ha.unique hb
  · exact fun order horder => Vcs.roleIn_eq_role horder
  · intro hreordered
    have hjudged := vcs_judges nspace answer' state'
    refine (vcs_judges nspace answer state).reordered hjudged hreordered ?_ ?_
    · intro names names' hnames
      exact ((hnames.filter _).map _).cons _
    · exact fun pods pods' horder hhealthy => hhealthy.perm horder

/-- Two pods of the data base, a job, a backup and the main pod. -/
def vcsPods : List Pod :=
  [⟨"gitea-vcs-0", .running, [], []⟩, ⟨"gitea-vcs-postgres-0", .running, [], []⟩,
    ⟨"gitea-vcs-postgres-1", .running, [], []⟩,
    ⟨"gitea-vcs-postgresql-db-backup-1-x", .pending, [], []⟩,
    ⟨"gitea-vcs-wait-for-postgres-1-x", .succeeded, [], []⟩]

theorem vcs_verdict_of_reversed_pods :
    let run (pods : List Pod) := (vcs "services").run (allBound pods) ()
    Reordered (Event.exchanges (run vcsPods).events)
        (Event.exchanges (run vcsPods.reverse).events) ∧
      (run vcsPods).value = true ∧ (run vcsPods.reverse).value = true ∧
      Vcs.roleIn [.postgres, .backup, .waitJob] = Vcs.role := by
  intro run
  obtain ⟨-, -, hroles, hsame⟩ :=
    vcs_verdict "services" (allBound vcsPods) () (allBound vcsPods.reverse) ()
  have hfirst : Event.exchanges (run vcsPods).events =
      ⟨.listPods "services" "gitea-vcs", .ok vcsPods⟩ ::
        boundClaims "services" ["gitea-vcs-data-claim", "pgdata-gitea-vcs-postgres-0",
          "pgdata-gitea-vcs-postgres-1"] := rfl
  have hsecond : Event.exchanges (run vcsPods.reverse).events =
      ⟨.listPods "services" "gitea-vcs", .ok vcsPods.reverse⟩ ::
        boundClaims "services" ["gitea-vcs-data-claim", "pgdata-gitea-vcs-postgres-1",
          "pgdata-gitea-vcs-postgres-0"] := rfl
  have hreordered : Reordered (Event.exchanges (run vcsPods).events)
      (Event.exchanges (run vcsPods.reverse).events) := by
    rw [hfirst, hsecond]
    exact reordered_of_boundClaims vcsPods.reverse_perm.symm
  have hpassed : (run vcsPods).value = true := rfl
  exact ⟨hreordered, hpassed, (hsame hreordered).symm.trans hpassed, hroles _ (by decide)⟩

end ClusterHealth.Checks
