import ClusterHealth.Proofs.Api.Shapes
import ClusterHealth.Proofs.Requests.Services
import ClusterHealth.Proofs.Text.Names
import ClusterHealth.Proofs.Verdicts.Pods

/-!
Services that keep their data in an etcd cluster: when they pass, whatever pods they have and
however these are listed.
-/
namespace ClusterHealth.Checks
open Procedure

/-- A claim that is bound, or a document that boot orchestration serves in its shape. -/
def Provides (e : Exchange) : Prop := Bound e ∨ Api.BosServes e

namespace EtcdService

/-- There are enough pods and exactly three members, jobs that wait for these are over, and all else
runs. -/
structure Healthy (s : EtcdService) (pods : List Pod) : Prop where
  enough : s.minPods ≤ pods.length
  members : pods.countP (Text.startsWith ·.name s!"{s.stem}-etcd-") = 3
  ended : ∀ pod ∈ pods, JobNamed s!"{s.stem}-wait-for-etcd-" pod.name → pod.phase = .succeeded
  running : ∀ pod ∈ pods, ¬JobNamed s!"{s.stem}-wait-for-etcd-" pod.name → pod.phase = .running

variable {nspace : String} {good : Exchange → Prop}

theorem mem_allowedPhases_iff (s : EtcdService) (pod : Pod) : pod.phase ∈ s.allowedPhases pod ↔
    (JobNamed s!"{s.stem}-wait-for-etcd-" pod.name → pod.phase = .succeeded) ∧
      (¬JobNamed s!"{s.stem}-wait-for-etcd-" pod.name → pod.phase = .running) := by
  have hname : isJobName pod.name s.waitStem = true ↔
      JobNamed s!"{s.stem}-wait-for-etcd-" pod.name := isJobName_iff
  unfold allowedPhases
  split
  · rename_i hjob
    have hnamed := hname.1 hjob
    rw [List.mem_singleton, forall_prop_of_true hnamed]
    exact (and_iff_left fun hother => absurd hnamed hother).symm
  · rename_i hjob
    have hnamed := mt hname.2 hjob
    rw [List.mem_singleton, forall_prop_of_true hnamed]
    exact (and_iff_right fun h => absurd h hnamed).symm

theorem healthy_iff {s : EtcdService} {pods : List Pod} :
    s.Healthy pods ↔ (PodCount.atLeast s.minPods).admits pods.length = true ∧
      (∀ pod ∈ pods, pod.phase ∈ s.allowedPhases pod) ∧ pods.countP s.isMember = 3 := by
  have hcount : (PodCount.atLeast s.minPods).admits pods.length = true ↔
      s.minPods ≤ pods.length := admits_atLeast
  simp only [hcount, mem_allowedPhases_iff]
  constructor
  · intro h
    exact ⟨h.enough, fun pod hpod => ⟨h.ended pod hpod, h.running pod hpod⟩, h.members⟩
  · intro h
    obtain ⟨henough, hphases, hmembers⟩ := h
    exact ⟨henough, hmembers, fun pod hpod => (hphases pod hpod).1,
      fun pod hpod => (hphases pod hpod).2⟩

theorem Healthy.perm {s : EtcdService} {pods pods' : List Pod} (h : s.Healthy pods)
    (horder : pods.Perm pods') : s.Healthy pods' := by
  refine ⟨?_, ?_, fun pod hpod => ?_, fun pod hpod => ?_⟩
  · rw [← horder.length_eq]
    exact h.enough
  · rw [← horder.countP_eq]
    exact h.members
  · exact h.ended pod (horder.mem_iff.2 hpod)
  · exact h.running pod (horder.mem_iff.2 hpod)

theorem podOk_weighs (s : EtcdService) (pod : Pod)
    (hgood : ∀ name reply, good ⟨.claimPhase nspace name, reply⟩ ↔ reply = .ok "Bound") :
    (s.podOk nspace pod).Weighs good (pod.phase ∈ s.allowedPhases pod) :=
  claimAndPhase_weighs (hgood pod.name) pod _

theorem memberCountOk_weighs (s : EtcdService) (pods : List Pod) :
    (s.memberCountOk pods).Weighs good (pods.countP s.isMember = 3) := weighs_unless_reject ..

theorem podsOk_weighsAfter (s : EtcdService)
    (hgood : ∀ name reply, good ⟨.claimPhase nspace name, reply⟩ ↔ reply = .ok "Bound") :
    (s.podsOk nspace).WeighsAfter (.listPods nspace s.stem) good fun listing =>
      ∃ pods, listing = .ok pods ∧ s.Healthy pods := by
  simp only [healthy_iff]
  refine podsByName_weighsAfter fun pods counted => ?_
  have hphases : (forAll pods (s.podOk nspace)).Weighs good
      (∀ pod ∈ pods, pod.phase ∈ s.allowedPhases pod) :=
    weighs_forAll fun pod _ => s.podOk_weighs pod hgood
  have hpods := weighs_both (weighs_pure counted)
    (weighs_both hphases (s.memberCountOk_weighs pods))
  simpa only [both, pure_bind, LawfulMonad.bind_assoc, Bool.and_assoc] using hpods

end EtcdService

theorem provides_claim_iff (nspace name : String) (reply : Reply (.claimPhase nspace name)) :
    Provides ⟨.claimPhase nspace name, reply⟩ ↔ reply = .ok "Bound" := or_iff_left not_false

theorem provides_document_iff (path : String) (answer : Api.Answer) :
    Provides (Api.fetched path answer) ↔ Api.BosServes (Api.fetched path answer) :=
  or_iff_right not_false

section run
variable {σ : Type} (nspace : String) (answer : (r : Request) → σ → Reply r × σ) (state : σ)

theorem bos_judges :
    Judges nspace "cray-bos" (fun names => EtcdService.memberClaims "cray-bos-etcd-" nspace names ++
      Api.bosEndpoints.map fun endpoint => .getJson endpoint.1) Provides
      (EtcdService.Healthy ⟨"cray-bos", 3⟩) (Event.exchanges ((bos nspace).run answer state).events)
      ((bos nspace).run answer state).value := by
  have hpods := EtcdService.bos.podsOk_weighsAfter (provides_claim_iff nspace)
  have hbos := hpods.both (Api.bos_weighs provides_document_iff)
  exact judges_run (hbos.congr fun _ => and_iff_left trivial) bos_makesAfter answer state

theorem crus_judges :
    Judges nspace "cray-crus" (EtcdService.memberClaims "cray-crus-etcd-" nspace) Provides
      (EtcdService.Healthy ⟨"cray-crus", 4⟩)
      (Event.exchanges ((crus nspace).run answer state).events)
      ((crus nspace).run answer state).value :=
  judges_run (EtcdService.crus.podsOk_weighsAfter (provides_claim_iff nspace)) crus_makesAfter
    answer state

end run

/-- After the pods are listed, the claims of all members are asked for, and for boot orchestration
all documents, too. The check passes if the pods are healthy and every reply is as it should be; the
order in which pods are listed does not matter. -/
theorem etcd_verdict {σ τ : Type} (nspace : String)
    (answer : (r : Request) → σ → Reply r × σ) (state : σ)
    (answer' : (r : Request) → τ → Reply r × τ) (state' : τ) :
    let first (check : String → Procedure Bool) := (check nspace).run answer state
    let second (check : String → Procedure Bool) := (check nspace).run answer' state'
    Judges nspace "cray-bos" (fun names => EtcdService.memberClaims "cray-bos-etcd-" nspace names ++
        Api.bosEndpoints.map fun endpoint => .getJson endpoint.1) Provides
        (EtcdService.Healthy ⟨"cray-bos", 3⟩) (Event.exchanges (first bos).events)
        (first bos).value ∧
      Judges nspace "cray-crus" (EtcdService.memberClaims "cray-crus-etcd-" nspace) Provides
        (EtcdService.Healthy ⟨"cray-crus", 4⟩) (Event.exchanges (first crus).events)
        (first crus).value ∧
      ∀ check ∈ [bos, crus],
        Reordered (Event.exchanges (first check).events) (Event.exchanges (second check).events) →
          (first check).value = (second check).value := by
  intro first second
  refine ⟨bos_judges nspace answer state, crus_judges nspace answer state, ?_⟩
  intro check hcheck hreordered
  rw [List.mem_pair] at hcheck
  rcases hcheck with rfl | rfl
  · have hjudged := bos_judges nspace answer' state'
    refine (bos_judges nspace answer state).reordered hjudged hreordered ?_ ?_
    · intro names names' hnames
      exact ((hnames.filter _).map _).append_right _
    · exact fun pods pods' horder hhealthy => hhealthy.perm horder
  · have hjudged := crus_judges nspace answer' state'
    refine (crus_judges nspace answer state).reordered hjudged hreordered ?_ ?_
    · exact fun names names' hnames => (hnames.filter _).map _
    · exact fun pods pods' horder hhealthy => hhealthy.perm horder

/-- Three members and a job that has waited for them. -/
def etcdPods (stem : String) : List Pod :=
  [⟨stem ++ "-etcd-a", .running, [], []⟩, ⟨stem ++ "-etcd-b", .running, [], []⟩,
    ⟨stem ++ "-etcd-c", .running, [], []⟩, ⟨stem ++ "-wait-for-etcd-1-x", .succeeded, [], []⟩]

/-- Surroundings of boot orchestration in which nothing can fail but the list of its versions. -/
def orchestration (versions : List Json) : (r : Request) → Reply r
  | .listPods .. => .ok (etcdPods "cray-bos")
  | .claimPhase .. => .ok "Bound"
  | .getJson "/apis/bos/" => .ok (.array versions)
  | .getJson "/apis/bos/v2/components" | .getJson "/apis/bos/v1/sessiontemplate"
  | .getJson "/apis/bos/v2/sessiontemplates" | .getJson "/apis/bos/v1/session"
  | .getJson "/apis/bos/v2/sessions" => .ok (.array [])
  | .getJson _ => .ok (.object [])
  | r => Rehearsal.refusal r

/-- The pods of one service pass in either order. The other service passes, too, but not if one of
its versions is no object. -/
theorem etcd_verdict_of_reversed_pods :
    let crusRun (pods : List Pod) := (crus "services").run (allBound pods) ()
    let bosRun (versions : List Json) :=
      (bos "services").run (fun r state => (orchestration versions r, state)) ()
    let pods := etcdPods "cray-crus"
    (Reordered (Event.exchanges (crusRun pods).events)
        (Event.exchanges (crusRun pods.reverse).events) ∧
      (crusRun pods).value = true ∧ (crusRun pods.reverse).value = true) ∧
    (bosRun [.object []]).value = true ∧ (bosRun [.object [], .null]).value = false := by
  intro crusRun bosRun pods
  refine ⟨?_, by decide +kernel, Bool.eq_false_iff.2 fun htrue => ?_⟩
  · obtain ⟨-, -, hsame⟩ := etcd_verdict "services" (allBound pods) () (allBound pods.reverse) ()
    have hfirst : Event.exchanges (crusRun pods).events =
        ⟨.listPods "services" "cray-crus", .ok pods⟩ ::
          boundClaims "services" ["cray-crus-etcd-a", "cray-crus-etcd-b", "cray-crus-etcd-c"] := rfl
    have hsecond : Event.exchanges (crusRun pods.reverse).events =
        ⟨.listPods "services" "cray-crus", .ok pods.reverse⟩ ::
          boundClaims "services" ["cray-crus-etcd-c", "cray-crus-etcd-b", "cray-crus-etcd-a"] := rfl
    have hreordered : Reordered (Event.exchanges (crusRun pods).events)
        (Event.exchanges (crusRun pods.reverse).events) := by
      rw [hfirst, hsecond]
      exact reordered_of_boundClaims pods.reverse_perm.symm
    have hpassed : (crusRun pods).value = true := rfl
    have hsamePassed := hsame crus (by simp) hreordered
    exact ⟨hreordered, hpassed, hsamePassed.symm.trans hpassed⟩
  · let answer (r : Request) (state : Unit) := (orchestration [.object [], .null] r, state)
    obtain ⟨hjudges, -⟩ := etcd_verdict "services" answer () answer ()
    have hdocument : Request.getJson "/apis/bos/" ∈
        Api.bosEndpoints.map fun endpoint => Request.getJson endpoint.1 := List.mem_cons_self
    obtain ⟨reply, hasked, hgood⟩ :=
      hjudges.exists_good htrue fun _ => List.mem_append_right _ hdocument
    have hreply : reply = .ok (.array [.object [], .null]) := reply_of_mem_exchanges hasked
    have hserves : Api.BosServes (Api.fetched "/apis/bos/" reply) :=
      (provides_document_iff _ _).1 hgood
    have hversions : ("/apis/bos/", Api.Shape.objects) ∈ Api.bosEndpoints := List.mem_cons_self
    obtain ⟨body, hbody, items, hitems, hobjects⟩ := (Api.bosServes_iff hversions).1 hserves
    rw [hreply] at hbody
    cases hbody
    cases hitems
    obtain ⟨fields, hnull⟩ := hobjects .null (by simp)
    cases hnull

end ClusterHealth.Checks
