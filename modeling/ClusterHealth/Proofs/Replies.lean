import ClusterHealth.Proofs.Course
import ClusterHealth.Rehearsal.Attempts
import Mathlib.Logic.Function.Basic

/-! Surroundings that answer the first request of a kind, the second and so on with given replies.
Every run in any surroundings is a run in such ones. -/
namespace ClusterHealth

/-- Requests of one kind are counted together. -/
inductive Request.Kind where
  | connect
  | exec
  | createFile
  | receive
  | writeFile
  | other
  deriving DecidableEq

def Request.kind : Request → Request.Kind
  | .connect .. => .connect
  | .exec .. => .exec
  | .createFile .. => .createFile
  | .receive .. => .receive
  | .writeFile .. => .writeFile
  | _ => .other

/-- The reply to each request, by the number of requests of its kind before it. -/
abbrev Replies := (r : Request) → Nat → Reply r

/-- How many requests of each kind there were. -/
abbrev Tally := Request.Kind → Nat

def Tally.zero : Tally := fun _ => 0

def Tally.count (t : Tally) (r : Request) : Tally := Function.update t r.kind (t r.kind + 1)

theorem Tally.count_apply (t : Tally) (r : Request) (kind : Request.Kind) :
    t.count r kind = if kind = r.kind then t r.kind + 1 else t kind := by
  rw [count, Function.update_apply]

namespace Replies

def answer (b : Replies) (r : Request) (t : Tally) : Reply r × Tally := (b r (t r.kind), t.count r)

theorem follows_exchanged {b : Replies} {t last : Tally} {r : Request} {reply : Reply r}
    {rest : List Event} :
    Follows (Procedure.Answers b.answer) t (.exchanged r reply :: rest) last ↔
      b r (t r.kind) = reply ∧ Follows (Procedure.Answers b.answer) (t.count r) rest last := by
  simp only [Follows, Procedure.Answers, answer, Prod.mk.injEq]
  constructor
  · intro h
    obtain ⟨_, ⟨hreply, rfl⟩, hrest⟩ := h
    exact ⟨hreply, hrest⟩
  · intro h
    obtain ⟨hreply, hrest⟩ := h
    exact ⟨_, ⟨hreply, rfl⟩, hrest⟩

theorem follows_logged {b : Replies} {t last : Tally} {entry : Log.Entry} {rest : List Event} :
    Follows (Procedure.Answers b.answer) t (.logged entry :: rest) last ↔
      Follows (Procedure.Answers b.answer) t rest last := by
  simp [Follows, Procedure.Answers]

theorem run_congr {b b' : Replies} {t : Tally} (p : Procedure α)
    (h : ∀ r n, t r.kind ≤ n → b r n = b' r n) :
    (p.run b.answer t).value = (p.run b'.answer t).value ∧
      (p.run b.answer t).events = (p.run b'.answer t).events := by
  induction p generalizing t with
  | done value => exact ⟨rfl, rfl⟩
  | log entry next ih => simpa [Procedure.run] using ih h
  | ask r next ih =>
    have hreply : b r (t r.kind) = b' r (t r.kind) := h r _ (Nat.le_refl _)
    have hlater : ∀ r' n, t.count r r'.kind ≤ n → b r' n = b' r' n := by
      intro r' n hn
      refine h r' n (Nat.le_trans ?_ hn)
      rw [Tally.count_apply]
      split
      · rename_i hkind
        rw [hkind]
        exact Nat.le_succ _
      · exact Nat.le_refl _
    simpa [Procedure.run, answer, hreply] using ih _ hlater

open Classical in
/-- Begins with `reply` to `r`, where `t` requests were made before, and goes on like `b`. -/
noncomputable def startingWith (b : Replies) (t : Tally) (r : Request) (reply : Reply r) :
    Replies :=
  fun r' n => if h : r = r' ∧ n = t r.kind then h.1 ▸ reply else b r' n

theorem startingWith_self (b : Replies) (t : Tally) (r : Request) (reply : Reply r) :
    b.startingWith t r reply r (t r.kind) = reply := by
  simp [startingWith]

theorem startingWith_later (b : Replies) (t : Tally) (r : Request) (reply : Reply r) {r' : Request}
    {n : Nat} (h : t.count r r'.kind ≤ n) : b.startingWith t r reply r' n = b r' n := by
  have hne : ¬(r = r' ∧ n = t r.kind) := by
    intro hsame
    obtain ⟨rfl, rfl⟩ := hsame
    rw [Tally.count_apply, if_pos rfl] at h
    omega
  rw [startingWith, dif_neg hne]

/-- Numbered replies can stand for any surroundings. -/
theorem exists_run_eq (p : Procedure α) {σ : Type} (answer : (r : Request) → σ → Reply r × σ)
    (state : σ) (t : Tally) :
    ∃ b : Replies, (p.run b.answer t).value = (p.run answer state).value ∧
      (p.run b.answer t).events = (p.run answer state).events := by
  induction p generalizing state t with
  | done value => exact ⟨fun r _ => Rehearsal.refusal r, rfl, rfl⟩
  | log entry next ih => simpa [Procedure.run] using ih state t
  | ask r next ih =>
    obtain ⟨b, hvalue, hevents⟩ := ih (answer r state).1 (answer r state).2 (t.count r)
    have hfirst := b.startingWith_self t r (answer r state).1
    have hlater (r' : Request) (n : Nat) (hn : t.count r r'.kind ≤ n) :=
      b.startingWith_later t r (answer r state).1 hn
    obtain ⟨hvalue', hevents'⟩ := run_congr (next (answer r state).1) hlater
    refine ⟨b.startingWith t r (answer r state).1, ?_, ?_⟩
    · simpa [Procedure.run, Replies.answer, hfirst, hvalue'] using hvalue
    · simpa [Procedure.run, Replies.answer, hfirst, hevents'] using hevents

end Replies
end ClusterHealth
