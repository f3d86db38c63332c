import ClusterHealth.Proofs.Course

/-! Which requests a procedure makes, whatever they are answered. -/
namespace ClusterHealth

namespace Event

/-- The requests among some events. -/
def requests (events : List Event) : List Request :=
  events.filterMap fun
    | .logged _ => none
    | .exchanged r _ => some r

@[simp] theorem requests_nil : requests [] = [] := rfl

@[simp] theorem requests_append (first second : List Event) :
    requests (first ++ second) = requests first ++ requests second := by
  simp [requests]

theorem requests_flatMap (items : List α) (parts : α → List Event) :
    requests (items.flatMap parts) = items.flatMap fun item => requests (parts item) := by
  induction items with
  | nil => rfl
  | cons item rest ih => rw [List.flatMap_cons, List.flatMap_cons, requests_append, ih]

@[simp] theorem requests_exchanged (r : Request) (reply : Reply r) (events : List Event) :
    requests (.exchanged r reply :: events) = r :: requests events := rfl

@[simp] theorem requests_logged (entry : Log.Entry) (events : List Event) :
    requests (.logged entry :: events) = requests events := rfl

@[simp] theorem requests_map_logged (entries : List Log.Entry) :
    requests (entries.map .logged) = [] := by
  induction entries with
  | nil => rfl
  | cons entry rest ih => exact ih

theorem exists_logged_of_requests_eq_nil {events : List Event} (h : requests events = []) :
    ∃ entries : List Log.Entry, events = entries.map .logged := by
  induction events with
  | nil => exact ⟨[], rfl⟩
  | cons event rest ih =>
    cases event with
    | exchanged r reply => cases h
    | logged entry =>
      obtain ⟨entries, rfl⟩ := ih h
      exact ⟨entry :: entries, rfl⟩

end Event

/-- Looks something up, or runs a command where a target lies. -/
def Request.Looks : Request → Prop
  | .listPods .. | .claimPhase .. | .configMapField .. | .getJson .. | .exec .. => True
  | _ => False

/-- Does not pause. -/
def Request.Awake (r : Request) : Prop := ∀ seconds, r ≠ .sleep seconds

namespace Procedure
open Event (requests)

theorem onlyLogs_reject (message : String) (fields : List (String × String)) :
    (reject message fields).OnlyLogs :=
  (onlyLogs_logged .error message fields).bind fun _ => onlyLogs_pure false

/-- One of two beginnings. -/
theorem onlyLogs_ite_bind {c : Prop} [Decidable c] {p q : Procedure α} {f : α → Procedure β}
    (hp : p.OnlyLogs) (hq : q.OnlyLogs) (hf : ∀ value, (f value).OnlyLogs) :
    (if c then p >>= f else q >>= f).OnlyLogs := by
  split
  · exact hp.bind hf
  · exact hq.bind hf

theorem onlyLogs_forAll {items : List α} {check : α → Procedure Bool}
    (h : ∀ item ∈ items, (check item).OnlyLogs) : (forAll items check).OnlyLogs := by
  refine Always.forAll h ⟨[], rfl⟩ fun first second hfirst hsecond => ?_
  obtain ⟨early, rfl⟩ := hfirst
  obtain ⟨late, rfl⟩ := hsecond
  exact ⟨early ++ late, by rw [List.map_append]⟩

/-- Makes these requests and no others. -/
def Makes (calls : List Request) (p : Procedure α) : Prop :=
  p.Always fun events _ => requests events = calls

variable {calls first second : List Request}

theorem OnlyLogs.makes {p : Procedure α} (h : p.OnlyLogs) : p.Makes [] := by
  refine h.mono fun events _ hevents => ?_
  obtain ⟨entries, rfl⟩ := hevents
  exact Event.requests_map_logged entries

theorem makes_request_bind {r : Request} {f : Reply r → Procedure α}
    (hf : ∀ reply, (f reply).Makes calls) : (request r >>= f).Makes (r :: calls) :=
  always_request_bind.2 fun reply => (hf reply).mono fun _ _ => congrArg (r :: ·)

theorem Makes.bind {p : Procedure α} {f : α → Procedure β} (hp : p.Makes first)
    (hf : ∀ value, (f value).Makes second) : (p >>= f).Makes (first ++ second) := by
  refine Always.bind (hp.mono fun early value hearly => (hf value).mono fun late _ hlate => ?_)
  rw [Event.requests_append, hearly, hlate]

/-- What follows only logs. -/
theorem Makes.ends {p : Procedure α} {f : α → Procedure β} (hp : p.Makes calls)
    (hf : ∀ value, (f value).OnlyLogs) : (p >>= f).Makes calls := by
  have h := hp.bind fun value => (hf value).makes
  rwa [List.append_nil] at h

/-- What comes before only logs. -/
theorem OnlyLogs.begins {p : Procedure α} {f : α → Procedure β} (hp : p.OnlyLogs)
    (hf : ∀ value, (f value).Makes calls) : (p >>= f).Makes calls := hp.makes.bind hf

theorem makes_both {p q : Procedure Bool} (hp : p.Makes first) (hq : q.Makes second) :
    (both p q).Makes (first ++ second) :=
  hp.bind fun _ => hq.ends fun _ => onlyLogs_pure _

theorem makes_forAll {items : List α} {check : α → Procedure Bool} {parts : α → List Request}
    (h : ∀ item, (check item).Makes (parts item)) :
    (forAll items check).Makes (items.flatMap parts) := by
  induction items with
  | nil => rfl
  | cons item rest ih => exact makes_both (h item) ih

/-- Makes requests of a kind only. -/
def Asks (allowed : Request → Prop) (p : Procedure α) : Prop :=
  p.Always fun events _ => ∀ r ∈ requests events, allowed r

variable {allowed : Request → Prop}

theorem Asks.weaken {p : Procedure α} {allowed' : Request → Prop} (hp : p.Asks allowed)
    (h : ∀ r, allowed r → allowed' r) : p.Asks allowed' :=
  Always.mono hp fun _ _ hevents r hr => h r (hevents r hr)

theorem Makes.asks {p : Procedure α} (hp : p.Makes calls) (h : ∀ r ∈ calls, allowed r) :
    p.Asks allowed :=
  hp.mono fun _ _ hevents => hevents ▸ h

theorem OnlyLogs.asks {p : Procedure α} (h : p.OnlyLogs) : p.Asks allowed :=
  h.makes.asks (List.forall_mem_nil _)

theorem asks_pure (value : α) : (pure value : Procedure α).Asks allowed :=
  (onlyLogs_pure value).asks

theorem asks_request_bind {r : Request} {f : Reply r → Procedure α} (hr : allowed r)
    (hf : ∀ reply, (f reply).Asks allowed) : (request r >>= f).Asks allowed := by
  refine always_request_bind.2 fun reply => (hf reply).mono fun events _ hevents => ?_
  rw [Event.requests_exchanged]
  exact List.forall_mem_cons.2 ⟨hr, hevents⟩

theorem Asks.bind {p : Procedure α} {f : α → Procedure β} (hp : p.Asks allowed)
    (hf : ∀ value, (f value).Asks allowed) : (p >>= f).Asks allowed := by
  refine Always.bind (hp.mono fun first value hfirst => (hf value).mono fun second _ hsecond => ?_)
  rw [Event.requests_append]
  exact List.forall_mem_append.2 ⟨hfirst, hsecond⟩

theorem asks_forAll {items : List α} {check : α → Procedure Bool}
    (h : ∀ item ∈ items, (check item).Asks allowed) : (forAll items check).Asks allowed := by
  refine Always.forAll h (List.forall_mem_nil _) fun first second hfirst hsecond => ?_
  rw [Event.requests_append]
  exact List.forall_mem_append.2 ⟨hfirst, hsecond⟩

/-- Makes a request first, and after its reply the requests that the reply leads to. -/
def MakesAfter (r : Request) (following : Reply r → List Request) (p : Procedure α) : Prop :=
  p.Always fun events _ =>
    ∃ reply rest, events = .exchanged r reply :: rest ∧ requests rest = following reply

variable {r : Request} {following : Reply r → List Request}

theorem makesAfter_request_bind {f : Reply r → Procedure α}
    (hf : ∀ reply, (f reply).Makes (following reply)) : (request r >>= f).MakesAfter r following :=
  always_request_bind.2 fun reply => (hf reply).mono fun rest _ hrest => ⟨reply, rest, rfl, hrest⟩

theorem MakesAfter.bind {p : Procedure α} {f : α → Procedure β} (hp : p.MakesAfter r following)
    (hf : ∀ value, (f value).Makes calls) :
    (p >>= f).MakesAfter r fun reply => following reply ++ calls := by
  refine Always.bind (hp.mono fun events value hevents => (hf value).mono fun late _ hlate => ?_)
  obtain ⟨reply, rest, rfl, hrest⟩ := hevents
  exact ⟨reply, rest ++ late, rfl, by rw [Event.requests_append, hrest, hlate]⟩

theorem MakesAfter.asks {p : Procedure α} (hp : p.MakesAfter r following) (hr : allowed r)
    (h : ∀ reply, ∀ r ∈ following reply, allowed r) : p.Asks allowed := by
  refine Always.mono hp fun events _ hevents => ?_
  obtain ⟨reply, rest, rfl, hrest⟩ := hevents
  rw [Event.requests_exchanged, hrest]
  exact List.forall_mem_cons.2 ⟨hr, h reply⟩

/-- The first reply of a run is the one that comes in its first state. -/
theorem reply_of_run_cons {p : Procedure α} {answer : (r : Request) → σ → Reply r × σ} {state : σ}
    {reply : Reply r} {rest : List Event}
    (h : (p.run answer state).events = .exchanged r reply :: rest) :
    reply = (answer r state).1 := by
  have hfollows := follows_run p answer state
  rw [h] at hfollows
  obtain ⟨next, hreply, -⟩ := hfollows
  exact (congrArg Prod.fst hreply).symm

theorem MakesAfter.run {p : Procedure α} (hp : p.MakesAfter r following)
    (answer : (r : Request) → σ → Reply r × σ) (state : σ) :
    requests (p.run answer state).events = r :: following (answer r state).1 := by
  obtain ⟨reply, rest, hevents, hrest⟩ := Always.run hp answer state
  rw [hevents, Event.requests_exchanged, hrest, reply_of_run_cons hevents]

end Procedure
end ClusterHealth
