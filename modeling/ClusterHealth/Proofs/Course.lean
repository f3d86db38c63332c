import ClusterHealth.Procedure

/-! What holds of every run of a procedure, and how surroundings that change with the events of a
run get from one state to another. -/
namespace ClusterHealth

/-- `step` allows to go from one state to another through these events. -/
def Follows (step : σ → ε → σ → Prop) (state : σ) : List ε → σ → Prop
  | [], last => last = state
  | event :: rest, last => ∃ next, step state event next ∧ Follows step next rest last

theorem follows_append {step : σ → ε → σ → Prop} {state last : σ} {first second : List ε} :
    Follows step state (first ++ second) last ↔
      ∃ middle, Follows step state first middle ∧ Follows step middle second last := by
  induction first generalizing state with
  | nil => simp [Follows]
  | cons event rest ih =>
    simp only [List.cons_append, Follows, ih]
    constructor
    · intro h
      obtain ⟨next, hstep, middle, hrest, hsecond⟩ := h
      exact ⟨middle, ⟨next, hstep, hrest⟩, hsecond⟩
    · intro h
      obtain ⟨middle, ⟨next, hstep, hrest⟩, hsecond⟩ := h
      exact ⟨next, hstep, middle, hrest, hsecond⟩

/-- At each of these events, `holds` of what came before it, the state it comes in and itself. -/
def Throughout (step : σ → ε → σ → Prop) (holds : List ε → σ → ε → Prop) (past : List ε)
    (state : σ) (events : List ε) : Prop :=
  ∀ first event rest now, events = first ++ event :: rest → Follows step state first now →
    holds (past ++ first) now event

section Throughout
variable {step : σ → ε → σ → Prop} {holds : List ε → σ → ε → Prop} {past : List ε} {state : σ}

@[simp] theorem throughout_nil : Throughout step holds past state [] := by
  intro first event rest now h
  simp at h

theorem throughout_cons {event : ε} {rest : List ε} :
    Throughout step holds past state (event :: rest) ↔
      holds past state event ∧
        ∀ next, step state event next → Throughout step holds (past ++ [event]) next rest := by
  constructor
  · intro h
    refine ⟨?_, fun next hstep first e others now hsplit hfirst => ?_⟩
    · simpa using h [] event rest state rfl rfl
    · simpa using h (event :: first) e others now (by rw [hsplit]; rfl) ⟨next, hstep, hfirst⟩
  · intro h first e' others now hsplit hfirst
    obtain ⟨hevent, hrest⟩ := h
    rcases first with _ | ⟨e, first⟩
    · obtain ⟨rfl, rfl⟩ := List.cons.inj hsplit
      have hnow : now = state := hfirst
      simpa [hnow] using hevent
    · obtain ⟨rfl, rfl⟩ := List.cons.inj hsplit
      obtain ⟨next, hstep, hfirst⟩ := hfirst
      simpa using hrest next hstep first e' others now rfl hfirst

theorem throughout_append {first second : List ε} :
    Throughout step holds past state (first ++ second) ↔
      Throughout step holds past state first ∧
        ∀ middle, Follows step state first middle →
          Throughout step holds (past ++ first) middle second := by
  induction first generalizing past state with
  | nil => simp [Follows]
  | cons event rest ih =>
    simp only [List.cons_append, throughout_cons, ih, Follows]
    constructor
    · intro h
      obtain ⟨hevent, h⟩ := h
      refine ⟨⟨hevent, fun next hstep => (h next hstep).1⟩, ?_⟩
      intro middle hmiddle
      obtain ⟨next, hstep, hrest⟩ := hmiddle
      simpa using (h next hstep).2 middle hrest
    · intro h
      obtain ⟨⟨hevent, hfirst⟩, hsecond⟩ := h
      refine ⟨hevent, fun next hstep => ⟨hfirst next hstep, fun middle hrest => ?_⟩⟩
      simpa using hsecond middle ⟨next, hstep, hrest⟩

end Throughout

namespace Procedure

/-- Whatever the requests are answered, `post` holds of the events and the value. -/
def Always : Procedure α → (List Event → α → Prop) → Prop
  | done value, post => post [] value
  | log entry next, post => Always next fun events => post (.logged entry :: events)
  | ask r next, post =>
    ∀ reply, Always (next reply) fun events => post (.exchanged r reply :: events)

theorem always_pure {value : α} {post : List Event → α → Prop} :
    Always (pure value) post ↔ post [] value := Iff.rfl

theorem always_request_bind {r : Request} {f : Reply r → Procedure α}
    {post : List Event → α → Prop} :
    Always (request r >>= f) post ↔
      ∀ reply, Always (f reply) fun events => post (.exchanged r reply :: events) := Iff.rfl

theorem always_logged_bind {level : Log.Level} {message : String}
    {fields : List (String × String)} {f : Unit → Procedure α} {post : List Event → α → Prop} :
    Always (logged level message fields >>= f) post ↔
      Always (f ()) fun events => post (.logged ⟨level, message, fields⟩ :: events) := Iff.rfl

theorem Always.mono {p : Procedure α} {post post' : List Event → α → Prop} (h : p.Always post)
    (himp : ∀ events value, post events value → post' events value) : p.Always post' := by
  induction p generalizing post post' with
  | done value => exact himp _ _ h
  | log entry next ih => exact ih h fun _ _ => himp _ _
  | ask r next ih => exact fun reply => ih reply (h reply) fun _ _ => himp _ _

theorem Always.bind {p : Procedure α} {f : α → Procedure β} {post : List Event → β → Prop}
    (h : p.Always fun events value =>
      (f value).Always fun rest result => post (events ++ rest) result) :
    (p >>= f).Always post := by
  change (Procedure.bind p f).Always post
  induction p generalizing post with
  | done value => exact h
  | log entry next ih => exact ih h
  | ask r next ih => exact fun reply => ih reply (h reply)

theorem Always.run {p : Procedure α} {post : List Event → α → Prop} (h : p.Always post)
    (answer : (r : Request) → σ → Reply r × σ) (state : σ) :
    post (p.run answer state).events (p.run answer state).value := by
  induction p generalizing state post with
  | done value => exact h
  | log entry next ih => exact ih h state
  | ask r next ih => exact ih (answer r state).1 (h (answer r state).1) (answer r state).2

/-- What an answer allows: a log entry changes nothing. -/
def Answers (answer : (r : Request) → σ → Reply r × σ) (state : σ) : Event → σ → Prop
  | .logged _, next => next = state
  | .exchanged r reply, next => answer r state = (reply, next)

theorem follows_run (p : Procedure α) (answer : (r : Request) → σ → Reply r × σ) (state : σ) :
    Follows (Answers answer) state (p.run answer state).events (p.run answer state).state := by
  induction p generalizing state with
  | done value => rfl
  | log entry next ih => exact ⟨state, rfl, ih state⟩
  | ask r next ih => exact ⟨_, rfl, ih (answer r state).1 (answer r state).2⟩

/-- Asks nothing. -/
def OnlyLogs (p : Procedure α) : Prop :=
  p.Always fun events _ => ∃ entries : List Log.Entry, events = entries.map .logged

theorem onlyLogs_pure (value : α) : OnlyLogs (pure value) := ⟨[], rfl⟩

theorem onlyLogs_logged (level : Log.Level) (message : String) (fields : List (String × String)) :
    OnlyLogs (logged level message fields) := ⟨[⟨level, message, fields⟩], rfl⟩

theorem OnlyLogs.bind {p : Procedure α} {f : α → Procedure β} (hp : p.OnlyLogs)
    (hf : ∀ value, (f value).OnlyLogs) : (p >>= f).OnlyLogs := by
  refine Always.bind (hp.mono ?_)
  intro events value hevents
  obtain ⟨first, rfl⟩ := hevents
  refine (hf value).mono ?_
  intro events _ hevents
  obtain ⟨second, rfl⟩ := hevents
  exact ⟨first ++ second, by simp⟩

/-- One step that is left out unless `c` holds. -/
theorem OnlyLogs.when {c : Prop} [Decidable c] {p : Procedure Unit} {f : Unit → Procedure α}
    (hp : p.OnlyLogs) (hf : ∀ value, (f value).OnlyLogs) :
    (if c then p >>= f else f ()).OnlyLogs := by
  split
  · exact hp.bind hf
  · exact hf ()

theorem onlyLogs_forM {items : List α} {f : α → Procedure Unit} (h : ∀ item, (f item).OnlyLogs) :
    (items.forM f).OnlyLogs := by
  induction items with
  | nil => exact onlyLogs_pure ()
  | cons item rest ih => exact (h item).bind fun _ => ih

theorem Always.forAll {items : List α} {check : α → Procedure Bool} {post : List Event → Prop}
    (h : ∀ item ∈ items, (check item).Always fun events _ => post events) (hnil : post [])
    (happend : ∀ first second, post first → post second → post (first ++ second)) :
    (forAll items check).Always fun events _ => post events := by
  induction items with
  | nil => exact hnil
  | cons item rest ih =>
    refine Always.bind ((h item (by simp)).mono fun first _ hfirst => ?_)
    have hrest := ih fun item hitem => h item (by simp [hitem])
    refine Always.bind (hrest.mono fun second _ hsecond => ?_)
    simpa [always_pure] using happend first second hfirst hsecond

end Procedure
end ClusterHealth
