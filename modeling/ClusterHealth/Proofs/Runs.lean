import ClusterHealth.Proofs.Requests

/-! How runs of procedures are put together from the runs of their parts. -/
namespace ClusterHealth.Procedure

theorem both_true_left (p : Procedure Bool) : both (pure true) p = p := by
  simp only [both, pure_bind, Bool.true_and, bind_pure]

theorem both_assoc (first second third : Procedure Bool) :
    both (both first second) third = both first (both second third) := by
  simp only [both, LawfulMonad.bind_assoc, pure_bind, Bool.and_assoc]

theorem forAll_append {check : α → Procedure Bool} (first second : List α) :
    forAll (first ++ second) check = both (forAll first check) (forAll second check) := by
  induction first with
  | nil => exact (both_true_left _).symm
  | cons item rest ih =>
    change both (check item) (forAll (rest ++ second) check) =
      both (both (check item) (forAll rest check)) (forAll second check)
    rw [ih, both_assoc]

theorem forAll_flatMap {check : β → Procedure Bool} (items : List α) (parts : α → List β) :
    forAll (items.flatMap parts) check = forAll items fun item => forAll (parts item) check := by
  induction items with
  | nil => rfl
  | cons item rest ih =>
    rw [List.flatMap_cons, forAll_append, ih]
    rfl

theorem forAll_map {check : β → Procedure Bool} (items : List α) (f : α → β) :
    forAll (items.map f) check = forAll items fun item => check (f item) := by
  induction items with
  | nil => rfl
  | cons item rest ih =>
    rw [List.map_cons, forAll, ih]
    rfl

section run
variable {σ : Type} (answer : (r : Request) → σ → Reply r × σ) (state : σ)

theorem run_request_bind (r : Request) (f : Reply r → Procedure α) :
    (request r >>= f).run answer state =
      let rest := (f (answer r state).1).run answer (answer r state).2
      ⟨rest.value, rest.state, .exchanged r (answer r state).1 :: rest.events⟩ := rfl

theorem run_then (p : Procedure α) (f : α → Procedure β) :
    (p >>= f).run answer state =
      let first := p.run answer state
      let second := (f first.value).run answer first.state
      ⟨second.value, second.state, first.events ++ second.events⟩ :=
  run_bind answer p f state

theorem run_both (first second : Procedure Bool) :
    (both first second).run answer state =
      let early := first.run answer state
      let late := second.run answer early.state
      ⟨early.value && late.value, late.state, early.events ++ late.events⟩ := by
  change (bind first fun a => bind second fun b => done (a && b)).run answer state = _
  simp only [run_bind, run, List.append_nil]

variable {answer state}

/-- Log entries leave the surroundings as they are. -/
theorem follows_map_logged {entries : List Log.Entry} {last : σ}
    (h : Follows (Answers answer) state (entries.map .logged) last) : last = state := by
  induction entries generalizing state with
  | nil => exact h
  | cons entry rest ih =>
    obtain ⟨next, rfl, hrest⟩ := h
    exact ih hrest

theorem OnlyLogs.state_run {p : Procedure α} (h : p.OnlyLogs) :
    (p.run answer state).state = state := by
  obtain ⟨entries, hentries⟩ := h.run answer state
  have hfollows := follows_run p answer state
  rw [hentries] at hfollows
  exact follows_map_logged hfollows

/-- One request alone leaves the state that its reply comes with. -/
theorem MakesAfter.state_run {p : Procedure α} {r : Request} (h : p.MakesAfter r fun _ => []) :
    (p.run answer state).state = (answer r state).2 := by
  obtain ⟨reply, rest, hevents, hrest⟩ := Always.run h answer state
  obtain ⟨entries, rfl⟩ := Event.exists_logged_of_requests_eq_nil hrest
  have hfollows := follows_run p answer state
  rw [hevents] at hfollows
  obtain ⟨next, hreply, hlater⟩ := hfollows
  have hnext : (answer r state).2 = next := congrArg Prod.snd hreply
  rw [hnext]
  exact follows_map_logged hlater

end run

/-- Runs of procedures, each from the state that the one before leaves. -/
def runsInTurn (answer : (r : Request) → σ → Reply r × σ) :
    List (Procedure α) → σ → List (Outcome σ α)
  | [], _ => []
  | p :: rest, state =>
    let outcome := p.run answer state
    outcome :: runsInTurn answer rest outcome.state

theorem run_forAll (answer : (r : Request) → σ → Reply r × σ) (items : List α)
    (check : α → Procedure Bool) (state : σ) :
    let outcomes := runsInTurn answer (items.map check) state
    ((forAll items check).run answer state).events = outcomes.flatMap (·.events) ∧
      ((forAll items check).run answer state).value = outcomes.all (·.value) := by
  induction items generalizing state with
  | nil => exact ⟨rfl, rfl⟩
  | cons item rest ih =>
    obtain ⟨hevents, hvalue⟩ := ih ((check item).run answer state).state
    dsimp only
    rw [List.map_cons, runsInTurn, List.flatMap_cons, List.all_cons, ← hevents, ← hvalue]
    change ((both (check item) (forAll rest check)).run answer state).events = _ ∧
      ((both (check item) (forAll rest check)).run answer state).value = _
    rw [run_both]
    exact ⟨rfl, rfl⟩

end ClusterHealth.Procedure
