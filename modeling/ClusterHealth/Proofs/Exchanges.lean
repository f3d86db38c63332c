import ClusterHealth.Proofs.Course
import Mathlib.Data.List.Forall2

/-! What a procedure asks and is replied, without what it logs on the way. -/
namespace ClusterHealth

/-- A request with its reply. -/
abbrev Exchange := (r : Request) × Reply r

namespace Event

/-- The exchanges among some events. -/
def exchanges (events : List Event) : List Exchange :=
  events.filterMap fun
    | .logged _ => none
    | .exchanged r reply => some ⟨r, reply⟩

@[simp] theorem exchanges_nil : exchanges [] = [] := rfl

@[simp] theorem exchanges_append (first second : List Event) :
    exchanges (first ++ second) = exchanges first ++ exchanges second := by
  simp [exchanges]

@[simp] theorem exchanges_exchanged (r : Request) (reply : Reply r) (events : List Event) :
    exchanges (.exchanged r reply :: events) = ⟨r, reply⟩ :: exchanges events := rfl

@[simp] theorem exchanges_logged (entry : Log.Entry) (events : List Event) :
    exchanges (.logged entry :: events) = exchanges events := rfl

@[simp] theorem exchanges_map_logged (entries : List Log.Entry) :
    exchanges (entries.map .logged) = [] := by
  induction entries with
  | nil => rfl
  | cons entry rest ih => exact ih

end Event

namespace Procedure

/-- Whatever the requests are answered, `post` holds of the exchanges and the value. -/
def Exchanges (p : Procedure α) (post : List Exchange → α → Prop) : Prop :=
  p.Always fun events value => post (Event.exchanges events) value

variable {post : List Exchange → α → Prop} {after : List Exchange → β → Prop}

theorem exchanges_pure {value : α} :
    (pure value : Procedure α).Exchanges post ↔ post [] value := Iff.rfl

theorem exchanges_request_bind {r : Request} {f : Reply r → Procedure α} :
    (request r >>= f).Exchanges post ↔
      ∀ reply, (f reply).Exchanges fun exchanged => post (⟨r, reply⟩ :: exchanged) := Iff.rfl

theorem Exchanges.mono {p : Procedure α} {post' : List Exchange → α → Prop}
    (h : p.Exchanges post)
    (himp : ∀ exchanged value, post exchanged value → post' exchanged value) :
    p.Exchanges post' :=
  Always.mono h fun _ _ => himp _ _

theorem Exchanges.bind {p : Procedure α} {f : α → Procedure β}
    (h : p.Exchanges fun first value =>
      (f value).Exchanges fun rest result => after (first ++ rest) result) :
    (p >>= f).Exchanges after := by
  refine Always.bind (Always.mono h fun events value hrest => ?_)
  refine Always.mono hrest fun rest result hafter => ?_
  rw [Event.exchanges_append]
  exact hafter

/-- Log entries in front are no exchanges. -/
theorem OnlyLogs.exchanges_bind {p : Procedure α} {f : α → Procedure β} (hp : p.OnlyLogs)
    (hf : ∀ value, (f value).Exchanges after) : (p >>= f).Exchanges after := by
  refine Exchanges.bind (Always.mono hp fun events value hevents => ?_)
  obtain ⟨entries, rfl⟩ := hevents
  rw [Event.exchanges_map_logged]
  exact hf value

theorem exchanges_both {first second : Procedure Bool} {early late : List Exchange → Bool → Prop}
    (hfirst : first.Exchanges early) (hsecond : second.Exchanges late) :
    (both first second).Exchanges fun exchanged passed =>
      ∃ before a behind b, exchanged = before ++ behind ∧ passed = (a && b) ∧
        early before a ∧ late behind b := by
  refine Exchanges.bind (hfirst.mono fun before a ha => ?_)
  refine Exchanges.bind (hsecond.mono fun behind b hb => ?_)
  exact ⟨before, a, behind, b, by simp, rfl, ha, hb⟩

/-- For every item there is what was exchanged over it and what came of it. -/
theorem exchanges_forAll {items : List α} {check : α → Procedure Bool}
    {part : α → List Exchange → Bool → Prop}
    (h : ∀ item ∈ items, (check item).Exchanges (part item)) :
    (forAll items check).Exchanges fun exchanged passed =>
      ∃ courses : List (List Exchange × Bool),
        List.Forall₂ (fun item course => part item course.1 course.2) items courses ∧
        exchanged = courses.flatMap Prod.fst ∧
        (passed = true ↔ ∀ course ∈ courses, course.2 = true) := by
  induction items with
  | nil => exact ⟨[], .nil, rfl, iff_of_true rfl (List.forall_mem_nil _)⟩
  | cons item rest ih =>
    have hitem := h item List.mem_cons_self
    have hrest := ih fun item hitem => h item (List.mem_cons_of_mem _ hitem)
    refine (exchanges_both hitem hrest).mono fun exchanged passed hboth => ?_
    obtain ⟨before, a, _, b, rfl, rfl, ha, courses, hcourses, rfl, hb⟩ := hboth
    refine ⟨(before, a) :: courses, .cons ha hcourses, rfl, ?_⟩
    rw [List.forall_mem_cons, Bool.and_eq_true, hb]

/-- Surroundings that always reply the same to a request have replied that in every exchange. -/
theorem reply_of_mem_exchanges {p : Procedure α} {reply : (r : Request) → Reply r} {state : σ}
    {e : Exchange} (h : e ∈ Event.exchanges (p.run (fun r s => (reply r, s)) state).events) :
    e.2 = reply e.1 := by
  induction p with
  | done value => cases h
  | log entry next ih => exact ih h
  | ask r next ih =>
    unfold run at h
    rw [Event.exchanges_exchanged] at h
    obtain rfl | h := List.mem_cons.1 h
    · rfl
    · exact ih _ h

/-- A run comes to what the replies make of it, whatever surroundings they come from. -/
theorem run_value_of_exchanges {p : Procedure α} {answer : (r : Request) → σ → Reply r × σ}
    {answer' : (r : Request) → τ → Reply r × τ} {state : σ} {state' : τ}
    (h : Event.exchanges (p.run answer state).events =
      Event.exchanges (p.run answer' state').events) :
    (p.run answer state).value = (p.run answer' state').value := by
  induction p generalizing state state' with
  | done value => rfl
  | log entry next ih => exact ih h
  | ask r next ih =>
    unfold run at h ⊢
    simp only [Event.exchanges_exchanged] at h
    obtain ⟨hfirst, hrest⟩ := List.cons.inj h
    have hreply : (answer r state).1 = (answer' r state').1 := eq_of_heq (Sigma.mk.inj hfirst).2
    rw [hreply] at hrest
    change (run answer (next (answer r state).1) _).value = _
    rw [hreply]
    exact ih _ hrest

end Procedure
end ClusterHealth
