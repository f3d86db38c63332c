import ClusterHealth.Proofs.Transfer.Course

/-! The calls that a verified transfer makes, and operations that fail: nothing is called behind
one. -/
namespace ClusterHealth.Transfer
open Procedure

/-- The request of a call to a port. Writing what arrives is part of a receive, and the removal of a
scratch file is no call. -/
def call? : Event → Option Request
  | .logged _ | .exchanged (.writeFile ..) _ | .exchanged (.removeFile ..) _ => none
  | .exchanged r _ => some r

/-- The calls among some events. -/
def calls (events : List Event) : List Request := events.filterMap call?

/-- The event is an operation that fails. -/
def Failed : Event → Prop
  | .exchanged (.connect _) reply => ∃ e, reply = .error e
  | .exchanged (.exec _ _ [path]) reply => ∃ e, reading path reply = .error e
  | .exchanged (.createFile ..) tag => tag = none
  | .exchanged (.receive ..) (.error _) => True
  | .exchanged (.receive ..) (.ok d) => d.interruption ≠ none
  | .exchanged (.writeFile ..) reply => ∃ e, reply = .error e
  | _ => False

variable {events rest : List Event}

theorem calls_append (first second : List Event) :
    calls (first ++ second) = calls first ++ calls second := List.filterMap_append ..

theorem calls_logged (entry : Log.Entry) : calls (.logged entry :: events) = calls events := rfl

/-- What may come behind an operation that fails: entries of the log, the end of a scratch file, and
behind a delivery that breaks off the part of it that arrived. -/
inductive Aftermath : Event → Event → Prop
  | logged (failed : Event) (entry : Log.Entry) : Aftermath failed (.logged entry)
  | removed (failed : Event) (file : String) : Aftermath failed (.exchanged (.removeFile file) ())
  | landed (session : Session) (artifact file : String) (mode : Mode) (d : Delivery)
    (reply : Except WriteError Unit) :
    Aftermath (.exchanged (.receive session artifact mode) (.ok d))
      (.exchanged (.writeFile file d.landed) reply)

/-- After the first operation that fails nothing is called, created or received. -/
def FailsOnce (events : List Event) : Prop :=
  events.Pairwise fun e later => Failed e → Aftermath e later

theorem failsOnce_cons {e : Event} (h : ¬Failed e) (hrest : FailsOnce rest) :
    FailsOnce (e :: rest) := .cons (fun _ _ he => absurd he h) hrest

theorem failsOnce_append {first : List Event} (h : ∀ e ∈ first, ¬Failed e)
    (hrest : FailsOnce rest) : FailsOnce (first ++ rest) := by
  induction first with
  | nil => exact hrest
  | cons e first ih =>
    obtain ⟨he, hfirst⟩ := List.forall_mem_cons.1 h
    exact failsOnce_cons he (ih hfirst)

theorem failsOnce_of_forall (h : ∀ e ∈ events, ¬Failed e) : FailsOnce events := by
  simpa using failsOnce_append h .nil

theorem failsOnce_logged (h : FailsOnce events) (entry : Log.Entry) :
    FailsOnce (events ++ [.logged entry]) :=
  List.pairwise_append.2 ⟨h, List.pairwise_singleton .., by simp [Aftermath.logged]⟩

namespace Verifier
variable {v : Verifier} {artifact : Artifact} {session : Session} {remote : String}
  {before : Digest}

@[simp] theorem failed_connected (reply : Except TransferError Session) :
    Failed (connected remote reply) ↔ ∃ e, reply = .error e := Iff.rfl

@[simp] theorem failed_probed (reply : Except ExecError String) :
    Failed (v.probed artifact reply) ↔ ∃ e, reading artifact.path reply = .error e := Iff.rfl

@[simp] theorem failed_digested (file : String) (reply : Except ExecError String) :
    Failed (v.digested file reply) ↔ ∃ e, reading file reply = .error e := Iff.rfl

@[simp] theorem failed_created (tag : Option String) :
    Failed (v.created artifact tag) ↔ tag = none := Iff.rfl

@[simp] theorem failed_received (d : Delivery) :
    Failed (v.received session artifact (.ok d)) ↔ d.interruption ≠ none := Iff.rfl

@[simp] theorem failed_written (file : String) (d : Delivery) (reply : Except WriteError Unit) :
    Failed (written file d reply) ↔ ∃ e, reply = .error e := Iff.rfl

@[simp] theorem not_failed_removed (file : String) : ¬Failed (removed file) := id

@[simp] theorem not_failed_logged (entry : Log.Entry) : ¬Failed (.logged entry) := id

@[simp] theorem aftermath_logged (e : Event) (entry : Log.Entry) : Aftermath e (.logged entry) :=
  .logged e entry

@[simp] theorem aftermath_removed (e : Event) (file : String) : Aftermath e (removed file) :=
  .removed e file

@[simp] theorem aftermath_written (file : String) (d : Delivery) (reply : Except WriteError Unit) :
    Aftermath (v.received session artifact (.ok d)) (written file d reply) :=
  .landed session artifact.name file v.mode d reply

theorem Attempted.not_failed {finding : Finding}
    (h : v.Attempted session remote artifact before events (.ok finding)) :
    ∀ e ∈ events, ¬Failed e := by
  cases h with
  | filed tag h =>
    cases h with
    | changed d after whole hne => simp [arrival, whole, reading_line]
    | unequal d got entry whole hne => simp [arrival, whole, reading_line]
    | equal d whole => simp [arrival, whole, reading_line]

theorem Attempted.failsOnce {e : ProbeError}
    (h : v.Attempted session remote artifact before events (.error e)) : FailsOnce events := by
  cases h with
  | fileless => exact List.pairwise_singleton ..
  | filed tag h =>
    cases h with
    | refused e => simp [FailsOnce]
    | unwritten d e => simp [FailsOnce]
    | interrupted d reason h => simp [FailsOnce, arrival]
    | unprobed d reply entry e whole h => simp [FailsOnce, arrival, whole]
    | undigested d reply entry e whole h => simp [FailsOnce, arrival, whole, reading_line]

/-- A cause that an attempt ends with is that of an operation. -/
theorem Attempted.failed {e : ProbeError}
    (h : v.Attempted session remote artifact before events (.error e)) :
    ∃ event ∈ events, Failed event := by
  cases h with
  | fileless => exact ⟨v.created artifact none, by simp, rfl⟩
  | filed tag h =>
    cases h with
    | refused e => exact ⟨v.received session artifact (.error e), by simp, trivial⟩
    | unwritten d e => exact ⟨written (v.scratch artifact tag) d (.error e), by simp, e, rfl⟩
    | interrupted d reason h =>
      exact ⟨v.received session artifact (.ok d), by simp [arrival], by simp [h]⟩
    | unprobed d reply entry e whole h => exact ⟨v.probed artifact reply, by simp, e, h⟩
    | undigested d reply entry e whole h =>
      exact ⟨v.digested (v.scratch artifact tag) reply, by simp, e, h⟩

theorem Settled.failsOnce {redos : Nat} {result : Except ProbeError Bool}
    (h : v.Settled session remote artifact redos before events result) : FailsOnce events := by
  induction h with
  | failed e h => exact h.failsOnce
  | ended equal h => exact failsOnce_of_forall h.not_failed
  | exhausted after h => exact failsOnce_of_forall h.not_failed
  | redone after h hrest ih =>
    exact failsOnce_append h.not_failed (failsOnce_cons (by simp) ih)

theorem Settled.not_failed {redos : Nat} {equal : Bool} {result : Except ProbeError Bool}
    (h : v.Settled session remote artifact redos before events result)
    (hresult : result = .ok equal) : ∀ e ∈ events, ¬Failed e := by
  induction h with
  | failed e h => cases hresult
  | ended equal' h => exact h.not_failed
  | exhausted after h => cases hresult
  | redone after h hrest ih =>
    exact List.forall_mem_append.2 ⟨h.not_failed, List.forall_mem_cons.2 ⟨by simp, ih hresult⟩⟩

theorem Verified.failsOnce {value : Bool} (h : v.Verified remote artifact events value) :
    FailsOnce events := by
  cases h with
  | unconnected e => simp [FailsOnce]
  | unprobed session reply entry e h => simp [FailsOnce]
  | judged session before equal h =>
    exact failsOnce_cons (by simp) (failsOnce_cons (by simp [reading_line]) h.failsOnce)
  | rejected session before e h =>
    exact failsOnce_cons (by simp)
      (failsOnce_cons (by simp [reading_line]) (failsOnce_logged h.failsOnce _))

theorem Verified.not_failed {value : Bool} (h : v.Verified remote artifact events value)
    (htrue : value = true) : ∀ e ∈ events, ¬Failed e := by
  cases h with
  | judged session before equal h => simpa [reading_line] using h.not_failed rfl
  | unconnected e => cases htrue
  | unprobed session reply entry e h => cases htrue
  | rejected session before e h => cases htrue

end Verifier
end ClusterHealth.Transfer
