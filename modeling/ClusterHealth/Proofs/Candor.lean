import ClusterHealth.Proofs.Course

/-! Procedures whose log agrees with what they come to: none fails silently, and none logs an error
that it may not log and passes nevertheless. -/
namespace ClusterHealth

namespace Event

/-- The errors that are logged among some events. -/
def errors (events : List Event) : List Log.Entry := (entries events).filter (·.level = .error)

@[simp] theorem errors_nil : errors [] = [] := rfl

@[simp] theorem errors_append (first second : List Event) :
    errors (first ++ second) = errors first ++ errors second := by
  simp [errors, entries]

end Event

namespace Procedure
open Event (errors)

/-- The log accounts for the value, for a procedure that is run when so far all was well only if
`before`, and something went wrong only if `failed`. With a `good` value all was well before and
only `tolerated` errors are logged; with a `bad` one something went wrong before, or an error is
logged. -/
structure Accounts (tolerated : Log.Entry → Prop) (before failed : Prop) (good bad : α → Prop)
    (p : Procedure α) : Prop where
  always : p.Always fun events value =>
    (good value → before ∧ ∀ entry ∈ errors events, tolerated entry) ∧
    (bad value → failed ∨ errors events ≠ [])

/-- The log agrees with the verdict that a value stands for. -/
def Candid (tolerated : Log.Entry → Prop) (verdict : α → Bool) (p : Procedure α) : Prop :=
  p.Accounts tolerated True False (verdict · = true) (verdict · = false)

variable {tolerated : Log.Entry → Prop} {before failed : Prop} {good bad : α → Prop}
  {good' bad' : β → Prop}

theorem accounts_pure {value : α} (hgood : good value → before) (hbad : bad value → failed) :
    (pure value : Procedure α).Accounts tolerated before failed good bad :=
  ⟨always_pure.2 ⟨fun h => ⟨hgood h, by simp⟩, fun h => .inl (hbad h)⟩⟩

theorem accounts_true (h : before) :
    (pure true : Procedure Bool).Accounts tolerated before failed (id · = true) (id · = false) :=
  accounts_pure (fun _ => h) Bool.noConfusion

theorem accounts_false (h : failed) :
    (pure false : Procedure Bool).Accounts tolerated before failed (id · = true) (id · = false) :=
  accounts_pure Bool.noConfusion fun _ => h

theorem Accounts.bind {p : Procedure α} {f : α → Procedure β}
    (hp : p.Accounts tolerated before failed good bad)
    (hf : ∀ value, (f value).Accounts tolerated (good value) (bad value) good' bad') :
    (p >>= f).Accounts tolerated before failed good' bad' := by
  refine ⟨.bind (hp.always.mono fun first value hfirst => (hf value).always.mono ?_)⟩
  intro second result h
  obtain ⟨hgood, hbad⟩ := hfirst
  obtain ⟨hgood', hbad'⟩ := h
  constructor
  · intro hresult
    obtain ⟨hvalue, hsecond⟩ := hgood' hresult
    obtain ⟨hbefore, hfirst⟩ := hgood hvalue
    refine ⟨hbefore, ?_⟩
    rw [Event.errors_append]
    exact List.forall_mem_append.2 ⟨hfirst, hsecond⟩
  · intro hresult
    rw [Event.errors_append]
    rcases hbad' hresult with hvalue | hsecond
    · rcases hbad hvalue with hfailed | hfirst
      · exact .inl hfailed
      · exact .inr (List.append_ne_nil_of_left_ne_nil hfirst _)
    · exact .inr (List.append_ne_nil_of_right_ne_nil _ hsecond)

theorem accounts_ite_bind {c : Prop} [Decidable c] {p q : Procedure α} {f : α → Procedure β}
    (hp : c → p.Accounts tolerated before failed good bad)
    (hq : ¬c → q.Accounts tolerated before failed good bad)
    (hf : ∀ value, (f value).Accounts tolerated (good value) (bad value) good' bad') :
    (if c then p >>= f else q >>= f).Accounts tolerated before failed good' bad' := by
  split
  · exact (hp ‹c›).bind hf
  · exact (hq ‹¬c›).bind hf

theorem Accounts.mono {p : Procedure α} {good₁ bad₁ : α → Prop}
    (hp : p.Accounts tolerated before failed good bad) (hgood : ∀ value, good₁ value → good value)
    (hbad : ∀ value, bad₁ value → bad value) :
    p.Accounts tolerated before failed good₁ bad₁ := by
  refine ⟨hp.always.mono fun events value h => ?_⟩
  obtain ⟨hgood', hbad'⟩ := h
  exact ⟨fun hvalue => hgood' (hgood value hvalue), fun hvalue => hbad' (hbad value hvalue)⟩

/-- What was before a procedure stays as it was. -/
theorem Accounts.frame {p : Procedure α} (hp : p.Accounts tolerated True False good bad) :
    p.Accounts tolerated before failed (fun value => before ∧ good value)
      (fun value => failed ∨ bad value) := by
  refine ⟨hp.always.mono fun events value h => ?_⟩
  obtain ⟨hgood, hbad⟩ := h
  constructor
  · intro hvalue
    obtain ⟨hbefore, hvalue⟩ := hvalue
    exact ⟨hbefore, (hgood hvalue).2⟩
  · intro hvalue
    rcases hvalue with hfailed | hvalue
    · exact .inl hfailed
    · exact .inr ((hbad hvalue).resolve_left id)

theorem accounts_request_bind {r : Request} {f : Reply r → Procedure α}
    (h : ∀ reply, (f reply).Accounts tolerated before failed good bad) :
    (request r >>= f).Accounts tolerated before failed good bad :=
  ⟨always_request_bind.2 fun reply => (h reply).always⟩

theorem accounts_warn_bind {message : String} {fields : List (String × String)}
    {f : Unit → Procedure α} (h : (f ()).Accounts tolerated before failed good bad) :
    (warn message fields >>= f).Accounts tolerated before failed good bad :=
  ⟨h.always⟩

/-- A warning that is left out unless `c` holds. -/
theorem accounts_warn_when {c : Prop} [Decidable c] {message : String}
    {fields : List (String × String)} {f : Unit → Procedure α}
    (h : (f ()).Accounts tolerated before failed good bad) :
    (if c then warn message fields >>= f else f ()).Accounts tolerated before failed good bad := by
  split
  · exact accounts_warn_bind h
  · exact h

/-- Always logs an error, which need not be tolerated. -/
structure Alarms (p : Procedure α) : Prop where
  always : p.Always fun events _ => errors events ≠ []

theorem alarms_error (message : String) (fields : List (String × String)) :
    (error message fields).Alarms := ⟨List.cons_ne_nil _ _⟩

/-- Behind an alarm nothing is good. -/
theorem Alarms.bind {p : Procedure α} {f : α → Procedure β} (hp : p.Alarms)
    (hf : ∀ value, (f value).Always fun _ result => ¬good' result) :
    (p >>= f).Accounts tolerated before failed good' bad' := by
  refine ⟨.bind (hp.always.mono fun first value hfirst => (hf value).mono ?_)⟩
  intro second result hresult
  have herrors : errors (first ++ second) ≠ [] := by
    rw [Event.errors_append]
    exact List.append_ne_nil_of_left_ne_nil hfirst _
  exact ⟨fun hgood => absurd hgood hresult, fun _ => .inr herrors⟩

/-- An error is logged before a value that is not good. -/
theorem accounts_fail {message : String} {fields : List (String × String)} {value : α}
    (h : ¬good value) :
    (error message fields >>= fun _ => pure value).Accounts tolerated before failed good bad :=
  (alarms_error message fields).bind fun _ => h

theorem accounts_reject (message : String) (fields : List (String × String)) :
    (reject message fields).Accounts tolerated before failed (id · = true) (id · = false) :=
  accounts_fail Bool.false_ne_true

/-- A procedure that is only run when all was well so far. -/
theorem Candid.behind {p : Procedure α} {verdict : α → Bool} (hp : p.Candid tolerated verdict)
    (h : before) : p.Accounts tolerated before failed (verdict · = true) (verdict · = false) :=
  Accounts.mono hp.frame (fun _ hvalue => ⟨h, hvalue⟩) fun _ => .inr

theorem Candid.bind {p : Procedure α} {f : α → Procedure β} {verdict : α → Bool}
    (hp : p.Candid tolerated verdict)
    (hf : ∀ value, (f value).Accounts tolerated (before ∧ verdict value = true)
      (failed ∨ verdict value = false) good' bad') :
    (p >>= f).Accounts tolerated before failed good' bad' :=
  Accounts.bind hp.frame hf

theorem candid_both {first second : Procedure Bool} (hfirst : first.Candid tolerated id)
    (hsecond : second.Candid tolerated id) : (both first second).Candid tolerated id := by
  exact hfirst.bind fun a => hsecond.bind fun b => accounts_pure (by grind) (by grind)

theorem candid_true : (pure true : Procedure Bool).Candid tolerated id := accounts_true trivial

theorem candid_forAll {items : List α} {check : α → Procedure Bool}
    (h : ∀ item ∈ items, (check item).Candid tolerated id) :
    (forAll items check).Candid tolerated id := by
  induction items with
  | nil => exact candid_true
  | cons item rest ih =>
    have hrest := ih fun item hitem => h item (List.mem_cons_of_mem _ hitem)
    exact candid_both (h item List.mem_cons_self) hrest

/-- Logs no errors but tolerated ones, whatever the value is. -/
def Tolerable (tolerated : Log.Entry → Prop) (p : Procedure α) : Prop :=
  p.Candid tolerated fun _ => true

theorem tolerable_pure (value : α) : (pure value : Procedure α).Tolerable tolerated :=
  accounts_pure (fun _ => trivial) Bool.noConfusion

theorem tolerable_error {message : String} {fields : List (String × String)}
    (h : tolerated ⟨.error, message, fields⟩) : (error message fields).Tolerable tolerated :=
  ⟨⟨fun _ => ⟨trivial, by simpa [errors, Event.entries] using h⟩, Bool.noConfusion⟩⟩

theorem Tolerable.bind {p : Procedure α} {f : α → Procedure β} (hp : p.Tolerable tolerated)
    (hf : ∀ value, (f value).Accounts tolerated before failed good' bad') :
    (p >>= f).Accounts tolerated before failed good' bad' := by
  refine Candid.bind hp fun value => ⟨(hf value).always.mono fun events result h => ?_⟩
  obtain ⟨hgood, hbad⟩ := h
  constructor
  · intro hresult
    obtain ⟨hbefore, htolerated⟩ := hgood hresult
    exact ⟨⟨hbefore, rfl⟩, htolerated⟩
  · intro hresult
    exact (hbad hresult).imp .inl id

/-- One step that is left out unless `c` holds. -/
theorem Tolerable.when {c : Prop} [Decidable c] {p : Procedure Unit} {f : Unit → Procedure β}
    (hp : c → p.Tolerable tolerated) (hf : (f ()).Accounts tolerated before failed good' bad') :
    (if c then p >>= f else f ()).Accounts tolerated before failed good' bad' := by
  split
  · exact (hp ‹c›).bind fun _ => hf
  · exact hf

theorem tolerable_forAll {items : List α} {check : α → Procedure Bool}
    (h : ∀ item ∈ items, (check item).Tolerable tolerated) :
    (forAll items check).Tolerable tolerated := by
  induction items with
  | nil => exact tolerable_pure true
  | cons item rest ih =>
    have hrest := ih fun item hitem => h item (List.mem_cons_of_mem _ hitem)
    exact (h item List.mem_cons_self).bind fun _ => hrest.bind fun _ => tolerable_pure _

end Procedure
end ClusterHealth
