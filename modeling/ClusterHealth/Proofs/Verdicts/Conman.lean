import ClusterHealth.Proofs.Requests.Services
import ClusterHealth.Proofs.Verdicts.Pods

/-!
The console manager: when it passes. Waiting containers are looked through twice, for the one that
should wait and for all others, and both passes have to agree on whom the expectation excuses.
-/
namespace ClusterHealth.Checks
open Procedure

/-- Some entry names the container, the first one that does so has the reason, and no entry names
another container. -/
structure Expectation.Fits (e : Expectation) (waiting : List (String × String)) : Prop where
  first : ∃ before after, waiting = before ++ (e.container, e.reason) :: after ∧
    ∀ entry ∈ before, entry.1 ≠ e.container
  alone : ∀ entry ∈ waiting, entry.1 = e.container

/-- Without an expectation nothing may wait. -/
def WaitsAsExpected (waiting : List (String × String)) : Option Expectation → Prop
  | none => waiting = []
  | some e => e.Fits waiting

/-- One pod that runs or has ended well, and waits for nothing but what is expected. -/
def Conman.Healthy (expected : Option Expectation) (pods : List Pod) : Prop :=
  ∃ pod, pods = [pod] ∧ (pod.phase = .running ∨ pod.phase = .succeeded) ∧
    WaitsAsExpected pod.waiting expected

variable {good : Exchange → Prop}

theorem expectationMet_weighs (pod : Pod) (e : Expectation) :
    (expectationMet pod e).Weighs good (∃ before after,
      pod.waiting = before ++ (e.container, e.reason) :: after ∧
        ∀ entry ∈ before, entry.1 ≠ e.container) := by
  unfold expectationMet
  split
  · rename_i hnone
    have hunnamed := List.find?_eq_none.1 hnone
    refine (weighs_reject ..).congr (iff_of_false not_false fun h => ?_)
    obtain ⟨before, after, hwaiting, -⟩ := h
    have hentry : (e.container, e.reason) ∈ pod.waiting := by simp [hwaiting]
    exact hunnamed _ hentry (beq_self_eq_true e.container)
  · rename_i container reason hfound
    have hfirst (r : String) : pod.waiting.find? (·.1 == e.container) = some (e.container, r) ↔
        ∃ before after, pod.waiting = before ++ (e.container, r) :: after ∧
          ∀ entry ∈ before, entry.1 ≠ e.container := by
      simp [List.find?_eq_some_iff_append]
    have hname : container = e.container := by simpa using List.find?_some hfound
    subst hname
    rw [hfound] at hfirst
    have hreason : reason = e.reason ↔ ∃ before after,
        pod.waiting = before ++ (e.container, e.reason) :: after ∧
          ∀ entry ∈ before, entry.1 ≠ e.container := by
      rw [← hfirst]
      simp
    exact (weighs_unless_reject ..).congr hreason

/-- Nothing is left to complain about if every entry is excused. -/
theorem unexpectedlyWaiting_eq_nil (pod : Pod) (e : Expectation) :
    unexpectedlyWaiting pod (some e) = [] ↔ ∀ entry ∈ pod.waiting, entry.1 = e.container := by
  have hexcused (entry : String × String) :
      ¬(!(some e).any (·.container == entry.1)) = true ↔ entry.1 = e.container := by
    rw [Option.any_some, Bool.not_eq_true', Bool.not_eq_false, beq_iff_eq, eq_comm]
  rw [unexpectedlyWaiting, List.filter_eq_nil_iff]
  simp only [hexcused]

/-- Complaints about all items pass if there is no item. -/
theorem complaints_weighs {α : Type} {items : List α} {complaint : α → Procedure Bool}
    (h : ∀ item, (complaint item).Weighs good False) :
    (forAll items complaint).Weighs good (items = []) :=
  (weighs_forAll fun item _ => h item).congr List.eq_nil_iff_forall_not_mem.symm

theorem podHealthy_weighs (pod : Pod) (expected : Option Expectation) :
    (podHealthy pod expected).Weighs good
      ((pod.phase = .running ∨ pod.phase = .succeeded) ∧ WaitsAsExpected pod.waiting expected) := by
  unfold podHealthy
  split
  · rename_i hphase
    cases expected with
    | none =>
      have hnone : unexpectedlyWaiting pod none = pod.waiting := by simp [unexpectedlyWaiting]
      refine (weighs_both weighs_true (complaints_weighs fun _ => weighs_reject ..)).congr ?_
      rw [hnone]
      simp [hphase, WaitsAsExpected]
    | some e =>
      refine (weighs_both (expectationMet_weighs pod e)
        (complaints_weighs fun _ => weighs_reject ..)).congr ?_
      rw [unexpectedlyWaiting_eq_nil]
      constructor
      · intro h
        exact ⟨hphase, h.1, h.2⟩
      · intro h
        exact ⟨h.2.first, h.2.alone⟩
  · rename_i hphase
    exact (weighs_reject ..).congr (iff_of_false not_false fun h => hphase h.1)

theorem admits_exactly {n found : Nat} : (PodCount.exactly n).admits found = true ↔ found = n := by
  rw [PodCount.admits, Bool.and_eq_true, decide_eq_true_eq]
  change n ≤ found ∧ decide (found ≤ n) = true ↔ found = n
  rw [decide_eq_true_eq]
  omega

namespace Conman
variable {nspace : String} {expected : Option Expectation}

theorem healthy_iff {pods : List Pod} : Healthy expected pods ↔
    (PodCount.exactly 1).admits pods.length = true ∧
      ∀ pod ∈ pods, (pod.phase = .running ∨ pod.phase = .succeeded) ∧
        WaitsAsExpected pod.waiting expected := by
  rw [admits_exactly, List.length_eq_one_iff]
  constructor
  · intro h
    obtain ⟨pod, rfl, hpod⟩ := h
    exact ⟨⟨pod, rfl⟩, List.forall_mem_singleton.2 hpod⟩
  · intro h
    obtain ⟨⟨pod, rfl⟩, hpods⟩ := h
    exact ⟨pod, rfl, hpods pod (List.mem_singleton_self pod)⟩

/-- An expectation asks for its own container and excuses no other. -/
theorem Healthy.waiting {e : Expectation} {pods : List Pod} (h : Healthy (some e) pods)
    {pod : Pod} (hpod : pod ∈ pods) :
    (∃ entry ∈ pod.waiting, entry.1 = e.container) ∧
      ∀ entry ∈ pod.waiting, entry.1 = e.container := by
  obtain ⟨only, rfl, -, hwaits⟩ := h
  rw [List.mem_singleton.1 hpod]
  obtain ⟨before, after, hwaiting, -⟩ := hwaits.first
  refine ⟨⟨(e.container, e.reason), ?_, rfl⟩, hwaits.alone⟩
  simp [hwaiting]

end Conman

theorem conman_weighsAfter (nspace : String) (expected : Option Expectation) :
    (conman nspace expected).WeighsAfter (.listPods nspace "cray-conman") Bound fun listing =>
      ∃ pods, listing = .ok pods ∧ Conman.Healthy expected pods := by
  simp only [Conman.healthy_iff]
  refine podsByName_weighsAfter fun pods counted => ?_
  have hclaim : (claimBound nspace "cray-conman-data-claim").Weighs Bound True :=
    claimBound_weighs fun _ => Iff.rfl
  have hphases : (forAll pods (podHealthy · expected)).Weighs Bound _ :=
    weighs_forAll fun pod _ => podHealthy_weighs pod expected
  have hpods := weighs_both (weighs_pure counted) (weighs_both hphases hclaim)
  simpa only [both, pure_bind, LawfulMonad.bind_assoc, Bool.and_assoc, and_true] using hpods

/-- After the pods are listed, the claim of the service is asked for. The check passes if there is
one healthy pod and the claim is bound. A pod whose expected container does not wait makes it fail,
and so does any other container that waits. -/
theorem conman_verdict (nspace : String) (expected : Option Expectation)
    (answer : (r : Request) → σ → Reply r × σ) (state : σ) :
    let outcome := (conman nspace expected).run answer state
    let listing := (answer (.listPods nspace "cray-conman") state).1
    Judges nspace "cray-conman" (fun _ => [.claimPhase nspace "cray-conman-data-claim"]) Bound
        (Conman.Healthy expected) (Event.exchanges outcome.events) outcome.value ∧
      ∀ e pods pod, expected = some e → listing = .ok pods → pod ∈ pods →
        ((∀ entry ∈ pod.waiting, entry.1 ≠ e.container) ∨
          ∃ entry ∈ pod.waiting, entry.1 ≠ e.container) → outcome.value = false := by
  intro outcome listing
  have hweighs := conman_weighsAfter nspace expected
  have hmakes : (conman nspace expected).MakesAfter _ _ := conman_makesAfter expected
  refine ⟨judges_run hweighs hmakes answer state, ?_⟩
  rintro e pods pod rfl hlisting hpod hwaiting
  obtain ⟨rest, -, -, hvalue⟩ := hweighs.run hmakes answer state
  rw [← Bool.not_eq_true, hvalue]
  rintro ⟨-, listed, hlisted, hhealthy⟩
  cases hlisting.symm.trans hlisted
  obtain ⟨hsome, hall⟩ := hhealthy.waiting hpod
  rcases hwaiting with hnone | hother
  · obtain ⟨entry, hentry, hname⟩ := hsome
    exact hnone entry hentry hname
  · obtain ⟨entry, hentry, hname⟩ := hother
    exact hname (hall entry hentry)

/-- A pod in a crash loop, with or without another container that waits. -/
def conmanPod (others : List (String × String)) : Pod :=
  ⟨"cray-conman-0", .running, ("cray-conman", "CrashLoopBackOff") :: others, []⟩

theorem conman_verdict_of_crash_loop :
    let run (container : String) (others : List (String × String)) :=
      (conman "services" (some ⟨container, "CrashLoopBackOff"⟩)).run
        (allBound [conmanPod others]) ()
    (run "cray-conman" []).value = true ∧
      (run "cray-conman" [("istio-proxy", "PodInitializing")]).value = false ∧
      (run "istio-proxy" []).value = false := by
  intro run
  have hfails (container : String) (others : List (String × String)) :=
    (conman_verdict "services" (some ⟨container, "CrashLoopBackOff"⟩)
      (allBound [conmanPod others]) ()).2 _ _ _ rfl rfl (List.mem_singleton_self _)
  refine ⟨rfl, hfails _ _ (.inr ?_), hfails _ _ (.inl ?_)⟩
  · exact ⟨("istio-proxy", "PodInitializing"), by decide, by decide⟩
  · decide

end ClusterHealth.Checks
