import ClusterHealth.Proofs.Course

/-! Which events a procedure can go through, and to which value. In given surroundings, a run is the
one course whose replies they allow. -/
namespace ClusterHealth

/-- Events in consecutive parts, one for each item. -/
def InTurn (part : α → List ε → Prop) : List α → List ε → Prop
  | [], events => events = []
  | item :: rest, events =>
    ∃ first others, events = first ++ others ∧ part item first ∧ InTurn part rest others

theorem inTurn_nil_iff {holds : α → Prop} {items : List α} {events : List ε} :
    InTurn (fun item part => holds item ∧ part = []) items events ↔
      (∀ item ∈ items, holds item) ∧ events = [] := by
  induction items generalizing events with
  | nil => simp [InTurn]
  | cons item rest ih =>
    simp only [InTurn, ih, List.forall_mem_cons]
    constructor
    · intro h
      obtain ⟨first, others, rfl, ⟨hitem, rfl⟩, hrest, rfl⟩ := h
      exact ⟨⟨hitem, hrest⟩, rfl⟩
    · intro h
      obtain ⟨⟨hitem, hrest⟩, rfl⟩ := h
      exact ⟨[], [], rfl, ⟨hitem, rfl⟩, hrest, rfl⟩

namespace Procedure

/-- With suitable replies the procedure goes through `events` and comes to `value`. -/
def Yields : Procedure α → List Event → α → Prop
  | done result, events, value => events = [] ∧ value = result
  | log entry next, events, value => ∃ rest, events = .logged entry :: rest ∧ next.Yields rest value
  | ask r next, events, value =>
    ∃ reply rest, events = .exchanged r reply :: rest ∧ (next reply).Yields rest value

@[simp] theorem yields_pure {result value : α} {events : List Event} :
    (pure result : Procedure α).Yields events value ↔ events = [] ∧ value = result := Iff.rfl

@[simp] theorem yields_request_bind {r : Request} {f : Reply r → Procedure α} {value : α}
    {events : List Event} :
    (request r >>= f).Yields events value ↔
      ∃ reply rest, events = .exchanged r reply :: rest ∧ (f reply).Yields rest value := Iff.rfl

theorem yields_bind {p : Procedure α} {f : α → Procedure β} {result : β} {events : List Event} :
    (p >>= f).Yields events result ↔
      ∃ first value second,
        events = first ++ second ∧ p.Yields first value ∧ (f value).Yields second result := by
  change (Procedure.bind p f).Yields events result ↔ _
  induction p generalizing events with
  | done value =>
    simp only [Procedure.bind, Yields]
    constructor
    · intro h
      exact ⟨[], value, events, rfl, ⟨rfl, rfl⟩, h⟩
    · intro h
      obtain ⟨_, _, _, rfl, ⟨rfl, rfl⟩, h⟩ := h
      exact h
  | log entry next ih =>
    simp only [Procedure.bind, Yields, ih]
    constructor
    · intro h
      obtain ⟨_, rfl, first, value, second, rfl, hfirst, hsecond⟩ := h
      exact ⟨_, value, second, rfl, ⟨first, rfl, hfirst⟩, hsecond⟩
    · intro h
      obtain ⟨_, value, second, rfl, ⟨first, rfl, hfirst⟩, hsecond⟩ := h
      exact ⟨_, rfl, first, value, second, rfl, hfirst, hsecond⟩
  | ask r next ih =>
    simp only [Procedure.bind, Yields, ih]
    constructor
    · intro h
      obtain ⟨reply, _, rfl, first, value, second, rfl, hfirst, hsecond⟩ := h
      exact ⟨_, value, second, rfl, ⟨reply, first, rfl, hfirst⟩, hsecond⟩
    · intro h
      obtain ⟨_, value, second, rfl, ⟨reply, first, rfl, hfirst⟩, hsecond⟩ := h
      exact ⟨reply, _, rfl, first, value, second, rfl, hfirst, hsecond⟩

theorem yields_run (p : Procedure α) (answer : (r : Request) → σ → Reply r × σ) (state : σ) :
    p.Yields (p.run answer state).events (p.run answer state).value := by
  induction p generalizing state with
  | done value => exact ⟨rfl, rfl⟩
  | log entry next ih => exact ⟨_, rfl, ih state⟩
  | ask r next ih => exact ⟨_, _, rfl, ih (answer r state).1 (answer r state).2⟩

/-- The replies determine the run. -/
theorem Yields.run_eq {p : Procedure α} {events : List Event} {value : α}
    {answer : (r : Request) → σ → Reply r × σ} {state last : σ} (h : p.Yields events value)
    (hevents : Follows (Answers answer) state events last) :
    p.run answer state = ⟨value, last, events⟩ := by
  induction p generalizing events state with
  | done result =>
    obtain ⟨rfl, rfl⟩ := h
    obtain rfl : last = state := hevents
    rfl
  | log entry next ih =>
    obtain ⟨rest, rfl, h⟩ := h
    obtain ⟨_, rfl, hrest⟩ := hevents
    rw [run, ih h hrest]
  | ask r next ih =>
    obtain ⟨reply, rest, rfl, h⟩ := h
    obtain ⟨middle, hreply, hrest⟩ := hevents
    have hanswer : answer r state = (reply, middle) := hreply
    rw [run, hanswer]
    dsimp only
    rw [ih reply h hrest]

@[simp] theorem yields_reject_true {message : String} {fields : List (String × String)}
    {events : List Event} : ¬(reject message fields).Yields events true := by
  intro h
  obtain ⟨rest, -, -, hvalue⟩ := h
  exact Bool.noConfusion hvalue

theorem yields_both_true {first second : Procedure Bool} {events : List Event} :
    (both first second).Yields events true ↔
      ∃ early late, events = early ++ late ∧ first.Yields early true ∧ second.Yields late true := by
  unfold both
  simp only [yields_bind, yields_pure]
  constructor
  · intro h
    obtain ⟨early, a, _, rfl, hfirst, late, b, _, rfl, hsecond, rfl, hvalue⟩ := h
    obtain ⟨rfl, rfl⟩ := Bool.and_eq_true_iff.1 hvalue.symm
    exact ⟨early, late, by rw [List.append_nil], hfirst, hsecond⟩
  · intro h
    obtain ⟨early, late, rfl, hfirst, hsecond⟩ := h
    exact ⟨early, true, _, rfl, hfirst, late, true, [], (List.append_nil _).symm, hsecond, rfl, rfl⟩

theorem yields_forAll_true {items : List α} {check : α → Procedure Bool} {events : List Event} :
    (forAll items check).Yields events true ↔
      InTurn (fun item part => (check item).Yields part true) items events := by
  induction items generalizing events with
  | nil => simp [forAll, InTurn]
  | cons item rest ih =>
    change (both (check item) (forAll rest check)).Yields events true ↔ _
    simp only [yields_both_true, ih, InTurn]

end Procedure
end ClusterHealth
