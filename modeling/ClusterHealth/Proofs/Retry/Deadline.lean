import ClusterHealth.Proofs.Retry.Attempts
import ClusterHealth.Proofs.Retry.Pause

/-! When attempts begin, measured against the deadline. -/
namespace ClusterHealth.Retry
open Procedure

/-- Pauses take exactly as long as was asked for. -/
def Clocked.SleepsExactly (c : Clocked σ) : Prop :=
  ∀ seconds state,
    c.clock (c.answer (.sleep seconds) state).2 = (c.clock state).addSeconds seconds

namespace Series
variable {σ : Type} (s : Series σ)

/-- Every attempt before attempt `i` is followed by another one. -/
def Reaches (i : Nat) : Prop := ∀ j < i, ¬s.Ends j

instance (i : Nat) : Decidable (s.Ends i) := inferInstanceAs (Decidable (_ ∨ _ ∨ _))

instance (i : Nat) : Decidable (s.Reaches i) := inferInstanceAs (Decidable (∀ j < i, ¬s.Ends j))

/-- Runs of `count` attempts, with a pause between any two of them. The last one decides, unless no
more of them are counted. -/
inductive Makes : Nat → Outcome σ Verdict → Prop
  | decided (last : Nat) (hlast : last < attemptBound) (hreaches : s.Reaches last)
    (hends : s.Ends last) :
    Makes (last + 1) ⟨.ok (s.passed last), s.closing last,
      .exchanged .now (s.within.clock s.start) ::
        ((List.range last).flatMap (fun i => s.trying i ++ s.pausing i) ++
          (s.trying last ++ s.ending last))⟩
  | exhausted (hreaches : s.Reaches attemptBound) :
    Makes attemptBound ⟨.error .attemptsExhausted, s.opening attemptBound,
      .exchanged .now (s.within.clock s.start) ::
        (List.range attemptBound).flatMap fun i => s.trying i ++ s.pausing i⟩

variable {s} {i count : Nat} {run : Outcome σ Verdict}

theorem Makes.reaches (h : s.Makes count run) (hi : i < count) : s.Reaches i := by
  cases h with
  | decided last _ hreaches _ => exact fun j hj => hreaches j (by omega)
  | exhausted hreaches => exact fun j hj => hreaches j (by omega)

theorem Makes.count_of_ends (h : s.Makes count run) (hi : i < count) (hends : s.Ends i) :
    i + 1 = count := by
  cases h with
  | decided last _ hreaches _ =>
    have hnot : ¬i < last := fun hlt => hreaches i hlt hends
    omega
  | exhausted hreaches => exact absurd hends (hreaches i hi)

/-- No attempt that can be counted is left out. -/
theorem Makes.lt_of_reaches (h : s.Makes count run) (hi : i < attemptBound) (hr : s.Reaches i) :
    i < count := by
  cases h with
  | decided last _ _ hends =>
    have hnot : ¬last < i := fun hlt => hr last hlt hends
    omega
  | exhausted _ => exact hi

theorem clock_opening_succ (hsleep : s.within.SleepsExactly) (i : Nat) :
    s.within.clock (s.opening (i + 1)) =
      (s.within.clock (s.closing i)).addSeconds
        (sleepSeconds (i + 1) (s.leftAfter i) s.plan.timeout) :=
  hsleep (sleepSeconds (i + 1) (s.leftAfter i) s.plan.timeout) (s.closing i)

/-- A pause shortens the time that is left by its length. -/
theorem leftBefore_succ (hsleep : s.within.SleepsExactly) (i : Nat) :
    s.leftBefore (i + 1) =
      s.leftAfter i - sleepSeconds (i + 1) (s.leftAfter i) s.plan.timeout := by
  rw [leftBefore, clock_opening_succ hsleep, leftAfter, Plan.secondsLeft, Plan.secondsLeft,
    Instant.seconds_addSeconds]
  omega

theorem leftBefore_succ_of_late (hsleep : s.within.SleepsExactly) (h : s.leftAfter i ≤ 1) :
    s.leftBefore (i + 1) = s.leftAfter i - 1 := by
  rw [leftBefore_succ hsleep, sleepSeconds_late h]
  rfl

/-- An attempt that ends with two seconds left or more is followed by one before the deadline. -/
theorem one_le_leftBefore_succ (hsleep : s.within.SleepsExactly) (h : 2 ≤ s.leftAfter i) :
    1 ≤ s.leftBefore (i + 1) := by
  have hlt := sleepSeconds_lt h (i + 1) s.plan.timeout
  rw [leftBefore_succ hsleep]
  omega

theorem neg_grace_le_leftBefore_succ (hsleep : s.within.SleepsExactly) (h : ¬s.Ends i) :
    -(s.grace : Int) ≤ s.leftBefore (i + 1) := by
  obtain ⟨-, -, hgrace⟩ := not_ends_iff.1 h
  by_cases hlate : s.leftAfter i ≤ 1
  · rw [leftBefore_succ_of_late hsleep hlate]
    omega
  · have hone := one_le_leftBefore_succ (i := i) hsleep (by omega)
    omega

theorem opening_lt_deadline (h : 1 ≤ s.leftBefore i) :
    (s.within.clock (s.opening i)).millis < s.plan.deadline.millis := by
  refine Instant.millis_lt_of_seconds_lt ?_
  rw [leftBefore, Plan.secondsLeft] at h
  omega

end Series

variable {σ : Type}

theorem run_withRetry (c : Clocked σ) (service : ServiceKey) (timeout grace : Nat)
    (check : Procedure Bool) (start : σ)
    (hdeadline : ((c.clock start).addSeconds timeout).InRange) {rest : Outcome σ Verdict} :
    let s := series c service timeout grace check start
    (attempts s.check s.plan s.grace attemptBound (0 + 1)).run s.within.answer (s.opening 0) =
        rest →
      (withRetry service timeout grace check).run c.answer start =
        ⟨rest.value, rest.state, .exchanged .now (c.clock start) :: rest.events⟩ := by
  intro s hrest
  have hplan : plan? service timeout (c.clock start) = some s.plan := if_pos hdeadline
  rw [withRetry, c.run_now_bind, ← hrest]
  simp only [hplan]
  rfl

theorem withRetry_makes (c : Clocked σ) (service : ServiceKey) (timeout grace : Nat)
    (check : Procedure Bool) (start : σ)
    (hdeadline : ((c.clock start).addSeconds timeout).InRange) :
    ∃ count, (series c service timeout grace check start).Makes count
      ((withRetry service timeout grace check).run c.answer start) := by
  rcases (series c service timeout grace check start).run_attempts attemptBound 0 with
    ⟨n, -, hn, hbefore, hends, hattempts⟩ | ⟨hbefore, hattempts⟩
  · refine ⟨n + 1, ?_⟩
    rw [run_withRetry c service timeout grace check start hdeadline hattempts, Nat.sub_zero,
      ← List.range_eq_range']
    exact .decided n (by omega) (fun j hj => hbefore j (by omega) hj) hends
  · refine ⟨attemptBound, ?_⟩
    rw [Nat.zero_add attemptBound] at hbefore hattempts
    rw [run_withRetry c service timeout grace check start hdeadline hattempts,
      ← List.range_eq_range']
    dsimp only
    exact .exhausted fun j hj => hbefore j (Nat.zero_le j) hj

/-- A retry never begins more than the grace period behind the deadline, and before the deadline if
two seconds were left when the attempt before it failed. Only the last attempt begins with one
second left or less. -/
theorem withRetry_begins_in_time (c : Clocked σ) (hsleep : c.SleepsExactly) (service : ServiceKey)
    (timeout grace : Nat) (check : Procedure Bool) (start : σ)
    (hdeadline : ((c.clock start).addSeconds timeout).InRange) :
    let s := series c service timeout grace check start
    ∃ count, s.Makes count ((withRetry service timeout grace check).run c.answer start) ∧
      (∀ i, i + 1 < count → -(s.grace : Int) ≤ s.leftBefore (i + 1)) ∧
      (∀ i, i + 1 < count → 2 ≤ s.leftAfter i →
        (c.clock (s.opening (i + 1))).millis < s.plan.deadline.millis) ∧
      ∀ i < count, s.leftBefore i ≤ 1 → i + 1 = count := by
  intro s
  obtain ⟨count, hmakes⟩ := withRetry_makes c service timeout grace check start hdeadline
  have hfollowed (i : Nat) (hi : i + 1 < count) : ¬s.Ends i :=
    hmakes.reaches hi i (Nat.lt_succ_self i)
  refine ⟨count, hmakes, fun i hi => ?_, fun i hi hleft => ?_, fun i hi hleft => ?_⟩
  · exact Series.neg_grace_le_leftBefore_succ hsleep (hfollowed i hi)
  · exact Series.opening_lt_deadline (Series.one_le_leftBefore_succ hsleep hleft)
  · exact hmakes.count_of_ends hi (.inr (.inl hleft))

open Rehearsal in
/-- The second of three attempts outlasts the deadline by sixteen seconds. -/
theorem withRetry_begins_in_time_after_overrun :
    let c : Clocked Attempts := ⟨Attempts.answer, Attempts.clock, fun _ => rfl⟩
    let start : Attempts := { clock := ⟨1500⟩, script := [⟨false, 5000⟩, ⟨false, 20000⟩] }
    let s := series c .tftp 10 30 Attempts.check start
    c.SleepsExactly ∧ ((c.clock start).addSeconds 10).InRange ∧
      s.Makes 3 ((withRetry .tftp 10 30 Attempts.check).run c.answer start) ∧
      s.leftAfter 1 = -16 ∧ -30 ≤ s.leftBefore 2 ∧
      2 ≤ s.leftAfter 0 ∧ (c.clock (s.opening 1)).millis < s.plan.deadline.millis := by
  intro c start s
  have hsleep : c.SleepsExactly := fun _ _ => rfl
  have hdeadline : ((c.clock start).addSeconds 10).InRange := by decide
  obtain ⟨count, hmakes, hgrace, hbefore, hfinal⟩ :=
    withRetry_begins_in_time c hsleep .tftp 10 30 Attempts.check start hdeadline
  have hreaches : s.Reaches 2 := by decide
  have htwo : 2 < count := hmakes.lt_of_reaches (by decide) hreaches
  have hlate : s.leftBefore 2 ≤ 1 := by decide
  have hthree : count = 3 := (hfinal 2 htwo hlate).symm
  have hleft : 2 ≤ s.leftAfter 0 := by decide
  refine ⟨hsleep, hdeadline, hthree ▸ hmakes, by decide, ?_, hleft, hbefore 0 (by omega) hleft⟩
  exact hgrace 1 htwo

end ClusterHealth.Retry
