import ClusterHealth.Proofs.Requests
import ClusterHealth.Proofs.Retry.Termination

/-!
Attempts that fail in no time. Only the pauses between them pass then, and together they fill the
time up to the last second before the deadline, in which the last attempt begins.
-/
namespace ClusterHealth

/-- Seconds that are slept. -/
def Request.pause? : Request → Option Nat
  | .sleep seconds => some seconds
  | _ => none

/-- Seconds of the pauses among some events, in turn. -/
def Event.pauses (events : List Event) : List Nat := (requests events).filterMap (·.pause?)

namespace Retry
open Event (pauses)

namespace Series
variable {σ : Type} (s : Series σ)

/-- Every attempt that is made fails, and the clock stands still meanwhile. -/
def Idle : Prop :=
  ∀ i, s.Reaches i →
    s.passed i = false ∧ s.within.clock (s.closing i) = s.within.clock (s.opening i)

/-- Pauses between the attempts up to attempt `i`. -/
def pausesUpTo (i : Nat) : List Nat := pauses ((List.range i).flatMap s.pausing)

theorem pausesUpTo_succ (i : Nat) :
    s.pausesUpTo (i + 1) =
      s.pausesUpTo i ++ [sleepSeconds (i + 1) (s.leftAfter i) s.plan.timeout] := by
  unfold pausesUpTo pauses
  rw [List.range_succ, List.flatMap_append, Event.requests_append, List.filterMap_append]
  rfl

variable {s} {i : Nat}

theorem Idle.onward (h : s.Idle) : s.Onward := fun i hi => by rw [(h i hi).2]

theorem Idle.leftAfter_eq (h : s.Idle) (hi : s.Reaches i) : s.leftAfter i = s.leftBefore i := by
  rw [leftAfter, leftBefore, (h i hi).2]

/-- Every attempt begins where the pauses before it have led to. -/
theorem Idle.clock_opening (hsleep : s.within.SleepsExactly) (h : s.Idle) (hi : s.Reaches i) :
    s.within.clock (s.opening i) =
      (s.within.clock s.start).addSeconds ((s.pausesUpTo i).sum : Nat) := by
  induction i with
  | zero => simp [opening, pausesUpTo, pauses, Instant.addSeconds]
  | succ i ih =>
    have hi : s.Reaches i := hi.mono (Nat.le_succ i)
    rw [clock_opening_succ hsleep, (h i hi).2, ih hi, pausesUpTo_succ, List.sum_append,
      List.sum_singleton, Instant.addSeconds_addSeconds]
    push_cast
    rfl

/-- What the pauses take is what the time that is left gets shorter by. -/
theorem Idle.leftBefore_add_sum (hsleep : s.within.SleepsExactly) (h : s.Idle)
    (hi : s.Reaches i) : s.leftBefore i + ((s.pausesUpTo i).sum : Nat) = s.leftBefore 0 := by
  have hclock := h.clock_opening hsleep hi
  have hstart : s.opening 0 = s.start := rfl
  rw [leftBefore, leftBefore, Plan.secondsLeft, Plan.secondsLeft, hclock, hstart,
    Instant.seconds_addSeconds]
  omega

/-- As long as attempts follow, there is a second left at least. -/
theorem Idle.one_le_leftBefore (hsleep : s.within.SleepsExactly) (h : s.Idle)
    (hstart : 1 ≤ s.leftBefore 0) (hi : s.Reaches i) : 1 ≤ s.leftBefore i := by
  cases i with
  | zero => exact hstart
  | succ i =>
    obtain ⟨-, hleft, -⟩ := not_ends_iff.1 (hi i (Nat.lt_succ_self i))
    have hafter := h.leftAfter_eq (hi.mono (Nat.le_succ i))
    exact one_le_leftBefore_succ hsleep (by omega)

/-- The attempt that no other one follows begins in the last second. -/
theorem Idle.leftBefore_last (hsleep : s.within.SleepsExactly) (h : s.Idle)
    (hstart : 1 ≤ s.leftBefore 0) (hi : s.Reaches i) (hends : s.Ends i) : s.leftBefore i = 1 := by
  have hone := h.one_le_leftBefore hsleep hstart hi
  have hafter := h.leftAfter_eq hi
  rcases hends with hpassed | hlast | hgrace
  · exact absurd ((h i hi).1.symm.trans hpassed) Bool.false_ne_true
  · omega
  -- No time has passed since the attempt began, before the deadline.
  · omega

end Series

variable {σ : Type}

/-- Attempts that fail in no time go on until one second before the deadline, and the pauses between
them add up to everything before it. -/
theorem withRetry_fills_window (c : Clocked σ) (hsleep : c.SleepsExactly) (service : ServiceKey)
    (timeout grace : Nat) (check : Procedure Bool) (start : σ) (hstart : (c.clock start).InRange)
    (hdeadline : ((c.clock start).addSeconds timeout).InRange) (htimeout : 1 ≤ timeout)
    (hidle : (series c service timeout grace check start).Idle) :
    let s := series c service timeout grace check start
    let run := (withRetry service timeout grace check).run c.answer start
    ∃ last, s.Makes (last + 1) run ∧ run.value = .ok false ∧
      c.clock (s.opening last) = (c.clock start).addSeconds (timeout - 1) ∧
      s.leftBefore last = 1 ∧ (s.pausesUpTo last).sum = timeout - 1 := by
  intro s run
  have htotal : s.leftBefore 0 = timeout := leftBefore_series ..
  obtain ⟨last, hmakes, hreaches, hends, hvalue⟩ :=
    withRetry_decides c hsleep service timeout grace check start hstart hdeadline hidle.onward
  have hleft : s.leftBefore last = 1 := hidle.leftBefore_last hsleep (by omega) hreaches hends
  have hpauses : s.leftBefore last + ((s.pausesUpTo last).sum : Nat) = s.leftBefore 0 :=
    hidle.leftBefore_add_sum hsleep hreaches
  have hsum : (s.pausesUpTo last).sum = timeout - 1 := by omega
  refine ⟨last, hmakes, ?_, ?_, hleft, hsum⟩
  · rw [hvalue, (hidle last hreaches).1]
  · have hseconds : (((s.pausesUpTo last).sum : Nat) : Int) = timeout - 1 := by omega
    rw [← hseconds]
    exact hidle.clock_opening hsleep hreaches

open Rehearsal in
/-- A minute that is counted from the last millisecond of a second takes eight attempts. -/
theorem withRetry_fills_minute :
    let c : Clocked Attempts := ⟨Attempts.answer, Attempts.clock, fun _ => rfl⟩
    let start : Attempts := { clock := ⟨1999⟩, script := [⟨false, 0⟩] }
    let s := series c .ims 60 30 Attempts.check start
    let run := (withRetry .ims 60 30 Attempts.check).run c.answer start
    c.SleepsExactly ∧ (c.clock start).InRange ∧ ((c.clock start).addSeconds 60).InRange ∧ s.Idle ∧
      s.Makes 8 run ∧ run.value = .ok false ∧ c.clock (s.opening 7) = ⟨60999⟩ ∧
      s.pausesUpTo 7 = [5, 10, 10, 10, 10, 8, 6] ∧ (s.pausesUpTo 7).sum = 59 := by
  intro c start s run
  have hsleep : c.SleepsExactly := fun _ _ => rfl
  have hstart : (c.clock start).InRange := by decide
  have hdeadline : ((c.clock start).addSeconds 60).InRange := by decide
  have hscript (i : Nat) : (s.opening i).script = [⟨false, 0⟩] := by
    induction i with
    | zero => rfl
    | succ i ih =>
      change (s.opening i).begin.2.script = _
      simp [Attempts.begin, ih]
  have hidle : s.Idle := by
    intro i _
    have hbegin : (s.opening i).begin.1.isOk = false ∧
        (s.opening i).begin.2.clock = (s.opening i).clock := by
      simp [Attempts.begin, hscript i, Except.isOk, Except.toBool]
    exact hbegin
  have hreaches : s.Reaches 7 := by decide
  have hends : s.Ends 7 := by decide
  obtain ⟨last, hmakes, hvalue, hclock, -, hsum⟩ :=
    withRetry_fills_window c hsleep .ims 60 30 Attempts.check start hstart hdeadline (by decide)
      hidle
  have hlt : 7 < last + 1 := hmakes.lt_of_reaches (by decide) hreaches
  have hlast : 8 = last + 1 := hmakes.count_of_ends hlt hends
  obtain rfl : last = 7 := by omega
  exact ⟨hsleep, hstart, hdeadline, hidle, hmakes, hvalue, hclock, by decide, hsum⟩

end Retry
end ClusterHealth
