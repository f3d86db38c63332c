import ClusterHealth.Proofs.Exchanges
import ClusterHealth.Proofs.Requests

/-!
Verdicts that hang on every reply by itself, and on what is known before. They are put together from
those of the parts, in any order.
-/
namespace ClusterHealth

theorem Event.map_fst_exchanges (events : List Event) :
    (exchanges events).map Sigma.fst = requests events := by
  induction events with
  | nil => rfl
  | cons event rest ih =>
    cases event with
    | logged entry => exact ih
    | exchanged r reply => exact congrArg (r :: ·) ih

namespace Procedure

/-- Comes to true exactly if every exchange is good, and if besides `holds`. -/
def Weighs (good : Exchange → Prop) (holds : Prop) (p : Procedure Bool) : Prop :=
  p.Exchanges fun exchanged passed => passed = true ↔ (∀ e ∈ exchanged, good e) ∧ holds

variable {good : Exchange → Prop} {holds holds' : Prop}

theorem weighs_pure (passed : Bool) : (pure passed : Procedure Bool).Weighs good (passed = true) :=
  (and_iff_right (List.forall_mem_nil good)).symm

theorem weighs_reject (message : String) (fields : List (String × String)) :
    (reject message fields).Weighs good False :=
  iff_of_false Bool.false_ne_true And.right

theorem Weighs.congr {p : Procedure Bool} (h : p.Weighs good holds) (hiff : holds ↔ holds') :
    p.Weighs good holds' :=
  Exchanges.mono h fun _ _ hpassed => hpassed.trans (and_congr_right' hiff)

theorem weighs_true : (pure true : Procedure Bool).Weighs good True :=
  (weighs_pure true).congr (iff_of_true rfl trivial)

theorem weighs_false : (pure false : Procedure Bool).Weighs good False :=
  (weighs_pure false).congr (iff_of_false Bool.false_ne_true not_false)

/-- One condition decides, whose failure is logged. -/
theorem weighs_unless_reject {c : Prop} [Decidable c] (message : String)
    (fields : List (String × String)) :
    (if c then return true else reject message fields : Procedure Bool).Weighs good c := by
  split
  · rename_i hc
    exact weighs_true.congr (iff_of_true trivial hc)
  · rename_i hc
    exact (weighs_reject message fields).congr (iff_of_false not_false hc)

theorem weighs_both {first second : Procedure Bool} (hfirst : first.Weighs good holds)
    (hsecond : second.Weighs good holds') : (both first second).Weighs good (holds ∧ holds') := by
  refine (exchanges_both hfirst hsecond).mono fun exchanged passed h => ?_
  obtain ⟨before, a, behind, b, rfl, rfl, ha, hb⟩ := h
  rw [Bool.and_eq_true, ha, hb, List.forall_mem_append]
  tauto

theorem weighs_forAll {items : List α} {check : α → Procedure Bool} {fine : α → Prop}
    (h : ∀ item ∈ items, (check item).Weighs good (fine item)) :
    (forAll items check).Weighs good (∀ item ∈ items, fine item) := by
  induction items with
  | nil => exact weighs_true.congr (iff_of_true trivial (List.forall_mem_nil _))
  | cons item rest ih =>
    have hrest := ih fun item hitem => h item (List.mem_cons_of_mem _ hitem)
    exact (weighs_both (h item List.mem_cons_self) hrest).congr List.forall_mem_cons.symm

/-- Comes to true exactly if `holds`, whatever the requests are answered. -/
def Decides (p : Procedure Bool) (holds : Prop) : Prop :=
  p.Always fun _ passed => passed = true ↔ holds

theorem decides_iff_weighs {p : Procedure Bool} :
    p.Decides holds ↔ p.Weighs (fun _ => True) holds := by
  have hpost (passed : Bool) (exchanged : List Exchange) :
      (passed = true ↔ (∀ e ∈ exchanged, True) ∧ holds) ↔ (passed = true ↔ holds) := by
    rw [and_iff_right fun _ _ => trivial]
  unfold Weighs Exchanges
  simp only [hpost]
  rfl

theorem decides_true : (pure true : Procedure Bool).Decides True := iff_of_true rfl trivial

theorem decides_reject (message : String) (fields : List (String × String)) :
    (reject message fields).Decides False := iff_of_false Bool.false_ne_true not_false

theorem Decides.congr {p : Procedure Bool} (h : p.Decides holds) (hiff : holds ↔ holds') :
    p.Decides holds' := h.mono fun _ _ hpassed => hpassed.trans hiff

theorem decides_forAll {items : List α} {check : α → Procedure Bool} {fine : α → Prop}
    (h : ∀ item ∈ items, (check item).Decides (fine item)) :
    (forAll items check).Decides (∀ item ∈ items, fine item) :=
  decides_iff_weighs.2 (weighs_forAll fun item hitem => decides_iff_weighs.1 (h item hitem))

/-- Makes a request first, and comes to true exactly if its reply is acceptable and every exchange
behind it is good. -/
def WeighsAfter (r : Request) (good : Exchange → Prop) (accepts : Reply r → Prop)
    (p : Procedure Bool) : Prop :=
  p.Exchanges fun exchanged passed => ∃ reply rest, exchanged = ⟨r, reply⟩ :: rest ∧
    (passed = true ↔ (∀ e ∈ rest, good e) ∧ accepts reply)

variable {r : Request} {accepts : Reply r → Prop} {following : Reply r → List Request}

theorem weighsAfter_request_bind {f : Reply r → Procedure Bool}
    (hf : ∀ reply, (f reply).Weighs good (accepts reply)) :
    (request r >>= f).WeighsAfter r good accepts :=
  exchanges_request_bind.2 fun reply =>
    (hf reply).mono fun rest _ hpassed => ⟨reply, rest, rfl, hpassed⟩

theorem WeighsAfter.congr {p : Procedure Bool} {accepts' : Reply r → Prop}
    (h : p.WeighsAfter r good accepts) (hiff : ∀ reply, accepts reply ↔ accepts' reply) :
    p.WeighsAfter r good accepts' := by
  obtain rfl : accepts = accepts' := funext fun reply => propext (hiff reply)
  exact h

theorem WeighsAfter.both {first second : Procedure Bool}
    (hfirst : first.WeighsAfter r good accepts) (hsecond : second.Weighs good holds) :
    (both first second).WeighsAfter r good fun reply => accepts reply ∧ holds := by
  refine (exchanges_both hfirst hsecond).mono fun exchanged passed h => ?_
  obtain ⟨_, a, late, b, rfl, rfl, ⟨reply, early, rfl, ha⟩, hb⟩ := h
  refine ⟨reply, early ++ late, rfl, ?_⟩
  rw [Bool.and_eq_true, ha, hb, List.forall_mem_append]
  tauto

/-- The first reply says what is asked next, and the verdict is known from all replies. -/
theorem WeighsAfter.run {p : Procedure Bool} (hweighs : p.WeighsAfter r good accepts)
    (hmakes : p.MakesAfter r following) (answer : (r : Request) → σ → Reply r × σ) (state : σ) :
    let outcome := p.run answer state
    let reply := (answer r state).1
    ∃ rest, Event.exchanges outcome.events = ⟨r, reply⟩ :: rest ∧
      rest.map Sigma.fst = following reply ∧
      (outcome.value = true ↔ (∀ e ∈ rest, good e) ∧ accepts reply) := by
  intro outcome reply
  obtain ⟨first, rest, hexchanges, hvalue⟩ := Always.run hweighs answer state
  obtain ⟨_, late, hevents, hlate⟩ := Always.run hmakes answer state
  have hreply := reply_of_run_cons hevents
  subst hreply
  rw [hevents, Event.exchanges_exchanged] at hexchanges
  obtain ⟨hfirst, rfl⟩ := List.cons.inj hexchanges
  cases hfirst
  refine ⟨_, ?_, ?_, hvalue⟩
  · rw [hevents, Event.exchanges_exchanged]
  · rw [Event.map_fst_exchanges, hlate]

end Procedure
end ClusterHealth
