import ClusterHealth.Proofs.Requests.Pods
import ClusterHealth.Proofs.Verdicts
import ClusterHealth.Rehearsal.Attempts
import Mathlib.Data.List.Perm.Basic

/-!
Verdicts on listed pods and their claims. The names of the pods say what is asked about them; the
order in which they are listed is of no account.
-/
namespace ClusterHealth.Checks
open Procedure

variable {nspace start : String} {good : Exchange → Prop} {healthy : List Pod → Prop}

theorem phaseIn_weighs (pod : Pod) (allowed : List Phase) :
    (phaseIn pod allowed).Weighs good (pod.phase ∈ allowed) := weighs_unless_reject ..

/-- A claim that is bound. -/
def Bound : Exchange → Prop
  | ⟨.claimPhase .., reply⟩ => reply = .ok "Bound"
  | _ => False

theorem claimBound_weighs {name : String}
    (hgood : ∀ reply, good ⟨.claimPhase nspace name, reply⟩ ↔ reply = .ok "Bound") :
    (claimBound nspace name).Weighs good True := by
  refine exchanges_request_bind.2 fun reply => ?_
  have hiff {passed : Bool} (h : passed = true ↔ reply = .ok "Bound") :
      passed = true ↔ (∀ e ∈ [(⟨.claimPhase nspace name, reply⟩ : Exchange)], good e) ∧ True := by
    rw [h, List.forall_mem_singleton, hgood, and_true]
  cases reply with
  | error e => exact hiff (iff_of_false Bool.false_ne_true nofun)
  | ok phase =>
    dsimp only
    split
    · rename_i hbound
      exact hiff (iff_of_true rfl (congrArg _ hbound))
    · rename_i hother
      have hfalse : false = true ↔ (Except.ok phase : Except LookupError String) = .ok "Bound" :=
        iff_of_false Bool.false_ne_true fun h => hother (Except.ok.inj h)
      split
      · exact hiff hfalse
      · exact hiff hfalse

/-- One pod, with its claim if it holds one. -/
theorem claimAndPhase_weighs {holds : Prop} [Decidable holds] {name : String}
    (hgood : ∀ reply, good ⟨.claimPhase nspace name, reply⟩ ↔ reply = .ok "Bound") (pod : Pod)
    (allowed : List Phase) :
    (both (if holds then claimBound nspace name else return true) (phaseIn pod allowed)).Weighs good
      (pod.phase ∈ allowed) := by
  have hclaim : (if holds then claimBound nspace name else return true).Weighs good True := by
    split
    · exact claimBound_weighs hgood
    · exact weighs_true
  exact (weighs_both hclaim (phaseIn_weighs pod allowed)).congr (iff_of_eq (true_and _))

theorem admits_atLeast {least found : Nat} :
    (PodCount.atLeast least).admits found = true ↔ least ≤ found := by
  rw [PodCount.admits, Bool.and_eq_true, decide_eq_true_eq]
  exact and_iff_left rfl

/-- The pods are weighed even if their number is wrong, but that is not overlooked. -/
theorem podsByName_weighsAfter {f : List Pod × Bool → Procedure Bool} {count : PodCount}
    (hf : ∀ pods counted, (f (pods, counted)).Weighs good (counted = true ∧ healthy pods)) :
    (podsByName nspace start count >>= f).WeighsAfter (.listPods nspace start) good fun listing =>
      ∃ pods, listing = .ok pods ∧ count.admits pods.length = true ∧ healthy pods := by
  unfold podsByName
  rw [LawfulMonad.bind_assoc]
  refine weighsAfter_request_bind fun listing => ?_
  cases listing with
  | error e =>
    have hnone : (f ([], false)).Weighs good False :=
      (hf [] false).congr (iff_of_false (fun h => Bool.false_ne_true h.1) not_false)
    refine (onlyLogs_logged ..).exchanges_bind fun _ => hnone.congr ?_
    exact iff_of_false not_false nofun
  | ok pods =>
    have hpods (counted : Bool) (h : counted = count.admits pods.length) :
        (f (pods, counted)).Weighs good (∃ listed, Except.ok (ε := LookupError) pods = .ok listed ∧
          count.admits listed.length = true ∧ healthy listed) := by
      refine (hf pods counted).congr ?_
      subst h
      simp
    dsimp only
    split
    · rename_i hcount
      exact hpods true hcount.symm
    · rename_i hcount
      rw [LawfulMonad.bind_assoc]
      refine (miscount_onlyLogs ..).exchanges_bind fun _ => hpods false ?_
      rw [Bool.not_eq_true] at hcount
      exact hcount.symm

/-- The pods are listed, their names say what is asked next, and the verdict is known from the list
and from every reply by itself. -/
def Judges (nspace start : String) (asked : List String → List Request) (good : Exchange → Prop)
    (healthy : List Pod → Prop) (exchanged : List Exchange) (passed : Bool) : Prop :=
  ∃ listing rest, exchanged = ⟨.listPods nspace start, listing⟩ :: rest ∧
    rest.map Sigma.fst = asked (listedNames listing) ∧
    (passed = true ↔ ∃ pods, listing = .ok pods ∧ healthy pods ∧ ∀ e ∈ rest, good e)

theorem judges_run {p : Procedure Bool} {asked : List String → List Request}
    (hweighs : p.WeighsAfter (.listPods nspace start) good fun listing =>
      ∃ pods, listing = .ok pods ∧ healthy pods)
    (hmakes : p.MakesAfter (.listPods nspace start) fun listing => asked (listedNames listing))
    (answer : (r : Request) → σ → Reply r × σ) (state : σ) :
    Judges nspace start asked good healthy (Event.exchanges (p.run answer state).events)
      (p.run answer state).value := by
  obtain ⟨rest, hexchanges, hrest, hvalue⟩ := hweighs.run hmakes answer state
  refine ⟨_, rest, hexchanges, hrest, hvalue.trans ?_⟩
  constructor
  · intro h
    obtain ⟨hgood, pods, hpods, hhealthy⟩ := h
    exact ⟨pods, hpods, hhealthy, hgood⟩
  · intro h
    obtain ⟨pods, hpods, hhealthy, hgood⟩ := h
    exact ⟨hgood, pods, hpods, hhealthy⟩

/-- Of a check that passes, whatever is asked for with all lists has been given a good reply. -/
theorem Judges.exists_good {asked : List String → List Request} {exchanged : List Exchange}
    {passed : Bool} {r : Request} (h : Judges nspace start asked good healthy exchanged passed)
    (hpassed : passed = true) (hr : ∀ names, r ∈ asked names) :
    ∃ reply, (⟨r, reply⟩ : Exchange) ∈ exchanged ∧ good ⟨r, reply⟩ := by
  obtain ⟨listing, rest, rfl, hrest, hvalue⟩ := h
  obtain ⟨-, -, -, hgood⟩ := hvalue.1 hpassed
  obtain ⟨⟨_, reply⟩, he, rfl⟩ := List.mem_map.1 (hrest ▸ hr (listedNames listing))
  exact ⟨reply, List.mem_cons_of_mem _ he, hgood _ he⟩

/-- The same pods are listed, in whatever order, and what is asked about them both times is answered
the same. -/
inductive Reordered : List Exchange → List Exchange → Prop
  | listed {nspace start : String} {pods pods' : List Pod} {rest rest' : List Exchange}
      (order : pods.Perm pods')
      (same : ∀ (r : Request) (reply reply' : Reply r),
        ⟨r, reply⟩ ∈ rest → ⟨r, reply'⟩ ∈ rest' → reply = reply') :
      Reordered (⟨.listPods nspace start, .ok pods⟩ :: rest)
        (⟨.listPods nspace start, .ok pods'⟩ :: rest')

/-- Surroundings in which these pods are listed and all claims are bound. -/
def allBound (pods : List Pod) : (r : Request) → Unit → Reply r × Unit
  | .listPods .., _ => (.ok pods, ())
  | .claimPhase .., _ => (.ok "Bound", ())
  | r, _ => (Rehearsal.refusal r, ())

/-- What is exchanged there over some claims. -/
def boundClaims (nspace : String) (names : List String) : List Exchange :=
  names.map fun name => ⟨.claimPhase nspace name, .ok "Bound"⟩

theorem reordered_of_boundClaims {pods pods' : List Pod} {names names' : List String}
    (horder : pods.Perm pods') :
    Reordered (⟨.listPods nspace start, .ok pods⟩ :: boundClaims nspace names)
      (⟨.listPods nspace start, .ok pods'⟩ :: boundClaims nspace names') := by
  refine .listed horder fun r reply reply' h h' => ?_
  obtain ⟨name, -, hname⟩ := List.mem_map.1 h
  obtain ⟨name', -, hname'⟩ := List.mem_map.1 h'
  cases hname
  cases hname'
  rfl

/-- Replies that agree are the same ones if the same requests are made. -/
theorem mem_of_same_replies {first second : List Exchange} {e : Exchange}
    (hrequests : (first.map Sigma.fst).Perm (second.map Sigma.fst))
    (hsame : ∀ (r : Request) (reply reply' : Reply r),
      ⟨r, reply⟩ ∈ first → ⟨r, reply'⟩ ∈ second → reply = reply') (h : e ∈ first) :
    e ∈ second := by
  have hrequest : e.1 ∈ second.map Sigma.fst := hrequests.mem_iff.1 (List.mem_map_of_mem h)
  obtain ⟨⟨r, reply'⟩, hreply, hr⟩ := List.mem_map.1 hrequest
  obtain ⟨r, reply⟩ := e
  cases hr
  rwa [hsame r reply reply' h hreply]

theorem Judges.reordered {asked : List String → List Request} {first second : List Exchange}
    {passed passed' : Bool} (hfirst : Judges nspace start asked good healthy first passed)
    (hsecond : Judges nspace start asked good healthy second passed')
    (hreordered : Reordered first second)
    (hasked : ∀ names names', names.Perm names' → (asked names).Perm (asked names'))
    (hhealthy : ∀ pods pods', pods.Perm pods' → healthy pods → healthy pods') :
    passed = passed' := by
  cases hreordered with
  | @listed _ _ pods pods' rest rest' horder hsame =>
    obtain ⟨_, _, hlist, hrest, hpassed⟩ := hfirst
    obtain ⟨_, _, hlist', hrest', hpassed'⟩ := hsecond
    cases hlist
    cases hlist'
    have hrequests : (rest.map Sigma.fst).Perm (rest'.map Sigma.fst) := by
      rw [hrest, hrest']
      exact hasked _ _ (horder.map _)
    have hmem (e : Exchange) : e ∈ rest ↔ e ∈ rest' := by
      constructor
      · exact mem_of_same_replies hrequests hsame
      · exact mem_of_same_replies hrequests.symm fun r reply reply' h h' =>
          (hsame r reply' reply h' h).symm
    rw [Bool.eq_iff_iff, hpassed, hpassed']
    simp only [Except.ok.injEq, exists_eq_left', hmem]
    exact and_congr_left' ⟨hhealthy _ _ horder, hhealthy _ _ horder.symm⟩

end ClusterHealth.Checks
