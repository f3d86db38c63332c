import ClusterHealth.Log
import ClusterHealth.Request

/-!
Procedures: finite trees of requests and log entries. Running one against answers with a state gives
its value and everything that happened on the way.
-/
namespace ClusterHealth

inductive Procedure (α : Type) where
  | done (value : α)
  | log (entry : Log.Entry) (next : Procedure α)
  | ask (request : Request) (next : Reply request → Procedure α)

/-- A log entry, or a request with its reply. -/
inductive Event where
  | logged (entry : Log.Entry)
  | exchanged (request : Request) (reply : Reply request)

namespace Procedure

def bind (p : Procedure α) (f : α → Procedure β) : Procedure β :=
  match p with
  | done value => f value
  | log entry next => log entry (bind next f)
  | ask request next => ask request fun reply => bind (next reply) f

instance : Monad Procedure where
  pure := done
  bind := bind

theorem bind_done (p : Procedure α) : bind p done = p := by
  induction p with
  | done => rfl
  | log _ _ ih => simp [bind, ih]
  | ask _ _ ih => simp [bind, ih]

theorem bind_assoc (p : Procedure α) (f : α → Procedure β) (g : β → Procedure γ) :
    bind (bind p f) g = bind p fun value => bind (f value) g := by
  induction p with
  | done => rfl
  | log _ _ ih => simp [bind, ih]
  | ask _ _ ih => simp [bind, ih]

instance : LawfulMonad Procedure := LawfulMonad.mk' Procedure
  (fun p => bind_done p) (fun _ _ => rfl) (fun p f g => bind_assoc p f g)

/-- Asks and returns the reply. -/
def request (r : Request) : Procedure (Reply r) := ask r done

def logged (level : Log.Level) (message : String) (fields : List (String × String)) :
    Procedure Unit :=
  log ⟨level, message, fields⟩ (done ())

def warn : String → List (String × String) → Procedure Unit := logged .warn

def error : String → List (String × String) → Procedure Unit := logged .error

/-- Logs an error and fails. -/
def reject (message : String) (fields : List (String × String)) : Procedure Bool := do
  error message fields
  return false

/-- Checks every item, also behind a failure. -/
def forAll (items : List α) (check : α → Procedure Bool) : Procedure Bool :=
  match items with
  | [] => pure true
  | item :: rest => do
    let first ← check item
    let others ← forAll rest check
    return first && others

/-- Carries out both, also if the first one fails. -/
def both (first second : Procedure Bool) : Procedure Bool := do
  let a ← first
  let b ← second
  return a && b

/-- Replaces every request by a procedure that answers it. -/
def interpret (answer : (r : Request) → Procedure (Reply r)) : Procedure α → Procedure α
  | done value => done value
  | log entry next => log entry (interpret answer next)
  | ask r next => bind (answer r) fun reply => interpret answer (next reply)

/-- Like `interpret`, with a state that answers may depend on and change. -/
def interpretFrom (answer : (r : Request) → σ → Procedure (Reply r × σ)) :
    Procedure α → σ → Procedure (α × σ)
  | done value, state => done (value, state)
  | log entry next, state => log entry (interpretFrom answer next state)
  | ask r next, state =>
    bind (answer r state) fun (reply, state) => interpretFrom answer (next reply) state

/-- What a run comes to. -/
structure Outcome (σ α : Type) where
  value : α
  state : σ
  events : List Event

/-- Runs a procedure: every request is answered from the state, which the answer may change. -/
def run (answer : (r : Request) → σ → Reply r × σ) : Procedure α → σ → Outcome σ α
  | done value, state => ⟨value, state, []⟩
  | log entry next, state =>
    let rest := run answer next state
    ⟨rest.value, rest.state, .logged entry :: rest.events⟩
  | ask r next, state =>
    let (reply, state) := answer r state
    let rest := run answer (next reply) state
    ⟨rest.value, rest.state, .exchanged r reply :: rest.events⟩

theorem run_bind (answer : (r : Request) → σ → Reply r × σ) (p : Procedure α)
    (f : α → Procedure β) (state : σ) :
    run answer (bind p f) state =
      let first := run answer p state
      let second := run answer (f first.value) first.state
      ⟨second.value, second.state, first.events ++ second.events⟩ := by
  induction p generalizing state with
  | done => rfl
  | log _ _ ih => simp [bind, run, ih]
  | ask _ _ ih => simp [bind, run, ih]

end Procedure

/-- The log entries among some events. -/
def Event.entries (events : List Event) : List Log.Entry :=
  events.filterMap fun
    | .logged entry => some entry
    | .exchanged .. => none

end ClusterHealth
