import ClusterHealth.Rehearsal.Attempts

/-! Runs of repeated attempts: which attempt is the last one, and everything that happens up to it.
Attempts are counted from zero here, so that the number of attempt `i` is `i + 1`. -/
namespace ClusterHealth.Retry
open Procedure

/-- Surroundings with a clock that stands still while it is read. -/
structure Clocked (σ : Type) where
  answer : (r : Request) → σ → Reply r × σ
  clock : σ → Instant
  now_eq : ∀ state, answer .now state = (clock state, state)

theorem Clocked.run_now_bind (c : Clocked σ) (f : Instant → Procedure α) (state : σ) :
    (request .now >>= f).run c.answer state =
      let rest := (f (c.clock state)).run c.answer state
      ⟨rest.value, rest.state, .exchanged .now (c.clock state) :: rest.events⟩ := by
  change (Procedure.ask .now f).run c.answer state = _
  rw [Procedure.run, c.now_eq]

/-- Attempts of a check in some surroundings, from `start` on. -/
structure Series (σ : Type) where
  within : Clocked σ
  check : Procedure Bool
  plan : Plan
  grace : Nat
  start : σ

namespace Series
variable {σ : Type} (s : Series σ)

/-- The state that an attempt begins in: behind the pause after the one before it. -/
def opening : Nat → σ
  | 0 => s.start
  | i + 1 =>
    let closing := (s.check.run s.within.answer (opening i)).state
    (s.within.answer (.sleep (s.plan.sleepAt (i + 1) (s.within.clock closing))) closing).2

def outcome (i : Nat) : Outcome σ Bool := s.check.run s.within.answer (s.opening i)

def passed (i : Nat) : Bool := (s.outcome i).value

def closing (i : Nat) : σ := (s.outcome i).state

/-- Whole seconds left when an attempt begins. -/
def leftBefore (i : Nat) : Int := s.plan.secondsLeft (s.within.clock (s.opening i))

/-- Whole seconds left when an attempt ends. -/
def leftAfter (i : Nat) : Int := s.plan.secondsLeft (s.within.clock (s.closing i))

/-- No attempt follows. -/
def Ends (i : Nat) : Prop :=
  s.passed i = true ∨ s.leftBefore i ≤ 1 ∨ s.leftAfter i ≤ -(s.grace : Int)

/-- The clock is read at the end of an attempt. -/
def reading (i : Nat) : Event := .exchanged .now (s.within.clock (s.closing i))

/-- Events of an attempt. -/
def trying (i : Nat) : List Event :=
  .exchanged .now (s.within.clock (s.opening i)) :: (s.outcome i).events

/-- Events between an attempt and the next one. -/
def pausing (i : Nat) : List Event :=
  [s.reading i, s.reading i,
    .exchanged (.sleep (sleepSeconds (i + 1) (s.leftAfter i) s.plan.timeout)) ()]

def finalEntry (i : Nat) : Log.Entry :=
  ⟨.warn, "Final attempt failed",
    [("service", s.plan.service.name), ("attempt", toString (i + 1))]⟩

def graceEntry : Log.Entry :=
  ⟨.warn, s!"Not retrying because stop time has already been exceeded by at least {s.grace} " ++
      "seconds",
    [("service", s.plan.service.name), ("grace_secs", toString s.grace)]⟩

/-- Events behind the last attempt. -/
def ending (i : Nat) : List Event :=
  if s.passed i then []
  else if s.leftBefore i ≤ 1 then [.logged (s.finalEntry i)]
  else [s.reading i, .logged s.graceEntry]

variable {s} {i : Nat}

theorem not_ends_iff : ¬s.Ends i ↔
    s.passed i = false ∧ 1 < s.leftBefore i ∧ -(s.grace : Int) < s.leftAfter i := by
  simp [Ends]

theorem run_check_bind {f : Bool → Procedure α} :
    (s.check >>= f).run s.within.answer (s.opening i) =
      let rest := (f (s.passed i)).run s.within.answer (s.closing i)
      ⟨rest.value, rest.state, (s.outcome i).events ++ rest.events⟩ :=
  Procedure.run_bind s.within.answer s.check f (s.opening i)

/-- The last attempt decides. -/
theorem run_attempts_of_ends (h : s.Ends i) (more : Nat) :
    (attempts s.check s.plan s.grace (more + 1) (i + 1)).run s.within.answer (s.opening i) =
      ⟨.ok (s.passed i), s.closing i, s.trying i ++ s.ending i⟩ := by
  rw [attempts, Clocked.run_now_bind, run_check_bind]
  by_cases hpassed : s.passed i = true
  · simp only [hpassed, if_true, trying, ending]
    rfl
  rw [Bool.not_eq_true] at hpassed
  by_cases hbefore : s.leftBefore i ≤ 1
  · have hfinal : s.plan.secondsLeft (s.within.clock (s.opening i)) ≤ 1 := hbefore
    simp only [hpassed, Bool.false_eq_true, if_false, if_pos hfinal, trying, ending, if_pos hbefore]
    rfl
  · have hnotFinal : ¬s.plan.secondsLeft (s.within.clock (s.opening i)) ≤ 1 := hbefore
    have hafter : s.leftAfter i ≤ -(s.grace : Int) := by
      rcases h with h | h | h
      · rw [hpassed] at h
        cases h
      · exact absurd h hbefore
      · exact h
    have hgrace : (s.grace : Int) ≤ -s.plan.secondsLeft (s.within.clock (s.closing i)) := by
      unfold leftAfter at hafter
      omega
    simp only [hpassed, Bool.false_eq_true, if_false, if_neg hnotFinal, trying, ending,
      if_neg hbefore]
    rw [Clocked.run_now_bind]
    simp only [if_pos hgrace]
    rfl

theorem run_attempts_of_not_ends (h : ¬s.Ends i) (more : Nat) :
    (attempts s.check s.plan s.grace (more + 1) (i + 1)).run s.within.answer (s.opening i) =
      let rest := (attempts s.check s.plan s.grace more (i + 2)).run s.within.answer
        (s.opening (i + 1))
      ⟨rest.value, rest.state, s.trying i ++ s.pausing i ++ rest.events⟩ := by
  obtain ⟨hpassed, hbefore, hafter⟩ := not_ends_iff.1 h
  have hnotFinal : ¬s.plan.secondsLeft (s.within.clock (s.opening i)) ≤ 1 := by
    unfold leftBefore at hbefore
    omega
  have hgrace : ¬(s.grace : Int) ≤ -s.plan.secondsLeft (s.within.clock (s.closing i)) := by
    unfold leftAfter at hafter
    omega
  rw [attempts, Clocked.run_now_bind, run_check_bind]
  simp only [hpassed, Bool.false_eq_true, if_false, if_neg hnotFinal]
  rw [Clocked.run_now_bind]
  simp only [if_neg hgrace]
  rw [Clocked.run_now_bind]
  simp only [trying, pausing, List.cons_append, List.nil_append, List.append_assoc]
  rfl

/-- Attempts from number `i + 1` on end with the first one that no attempt follows, or are given up
when there were too many. -/
theorem run_attempts (s : Series σ) (more i : Nat) :
    let run := (attempts s.check s.plan s.grace more (i + 1)).run s.within.answer (s.opening i)
    (∃ n, i ≤ n ∧ n < i + more ∧ (∀ j, i ≤ j → j < n → ¬s.Ends j) ∧ s.Ends n ∧
      run = ⟨.ok (s.passed n), s.closing n,
        (List.range' i (n - i)).flatMap (fun j => s.trying j ++ s.pausing j) ++
          (s.trying n ++ s.ending n)⟩) ∨
    (∀ j, i ≤ j → j < i + more → ¬s.Ends j) ∧
      run = ⟨.error .attemptsExhausted, s.opening (i + more),
        (List.range' i more).flatMap fun j => s.trying j ++ s.pausing j⟩ := by
  induction more generalizing i with
  | zero =>
    refine .inr ⟨fun j hj hj' => by omega, rfl⟩
  | succ more ih =>
    by_cases h : s.Ends i
    · refine .inl ⟨i, Nat.le_refl i, by omega, fun j hj hj' => by omega, h, ?_⟩
      rw [run_attempts_of_ends h, Nat.sub_self]
      rfl
    · rw [run_attempts_of_not_ends h]
      have hearlier (n : Nat) (hn : ∀ j, i + 1 ≤ j → j < n → ¬s.Ends j) :
          ∀ j, i ≤ j → j < n → ¬s.Ends j := by
        intro j hj hj'
        by_cases hji : j = i
        · rwa [hji]
        · exact hn j (by omega) hj'
      rcases ih (i + 1) with ⟨n, hin, hn, hbefore, hends, hrun⟩ | ⟨hbefore, hrun⟩
      · refine .inl ⟨n, by omega, by omega, hearlier n hbefore, hends, ?_⟩
        have hcount : n - i = (n - (i + 1)) + 1 := by omega
        rw [hrun, hcount, List.range'_succ, List.flatMap_cons, List.append_assoc]
      · refine .inr ⟨fun j hj hj' => hearlier (i + 1 + more) hbefore j hj (by omega), ?_⟩
        rw [hrun, List.range'_succ, List.flatMap_cons, Nat.add_assoc i 1 more, Nat.add_comm 1 more]

end Series

variable {σ : Type}

/-- The attempts that `withRetry` may make. -/
def series (c : Clocked σ) (service : ServiceKey) (timeout grace : Nat) (check : Procedure Bool)
    (start : σ) : Series σ :=
  ⟨c, check, ⟨service, timeout, (c.clock start).addSeconds timeout⟩, min grace graceBound, start⟩

/-- A run ends with the first attempt that passes, begins with at most one second left or ends with
the grace period used up; it consists of the attempts up to that one with one pause between any two
of them. Only if there is none among all attempts that can be counted it has no verdict. -/
theorem withRetry_run (c : Clocked σ) (service : ServiceKey) (timeout grace : Nat)
    (check : Procedure Bool) (start : σ)
    (hdeadline : ((c.clock start).addSeconds timeout).InRange) :
    let s := series c service timeout grace check start
    let run := (withRetry service timeout grace check).run c.answer start
    (∃ n < attemptBound,
      (∀ i < n, s.passed i = false ∧ 1 < s.leftBefore i ∧ -(s.grace : Int) < s.leftAfter i) ∧
      (s.passed n = true ∨ s.leftBefore n ≤ 1 ∨ s.leftAfter n ≤ -(s.grace : Int)) ∧
      run = ⟨.ok (s.passed n), s.closing n, .exchanged .now (c.clock start) ::
        ((List.range n).flatMap (fun i => s.trying i ++ s.pausing i) ++
          (s.trying n ++ s.ending n))⟩) ∨
    (∀ i < attemptBound,
      s.passed i = false ∧ 1 < s.leftBefore i ∧ -(s.grace : Int) < s.leftAfter i) ∧
    run = ⟨.error .attemptsExhausted, s.opening attemptBound, .exchanged .now (c.clock start) ::
      (List.range attemptBound).flatMap fun i => s.trying i ++ s.pausing i⟩ := by
  intro s run
  have hplan : plan? service timeout (c.clock start) = some s.plan := if_pos hdeadline
  have hrun (rest : Outcome σ Verdict)
      (hrest : (attempts check s.plan s.grace attemptBound (0 + 1)).run c.answer (s.opening 0) =
        rest) :
      run = ⟨rest.value, rest.state, .exchanged .now (c.clock start) :: rest.events⟩ := by
    change (withRetry service timeout grace check).run c.answer start = _
    rw [withRetry, c.run_now_bind, ← hrest]
    simp only [hplan]
    rfl
  rw [List.range_eq_range']
  rcases s.run_attempts attemptBound 0 with
    ⟨n, -, hn, hbefore, hends, hattempts⟩ | ⟨hbefore, hattempts⟩
  · left
    refine ⟨n, by omega, fun i hi => Series.not_ends_iff.1 (hbefore i (by omega) hi), hends, ?_⟩
    rw [List.range_eq_range']
    exact hrun _ hattempts
  · right
    rw [Nat.zero_add] at hattempts
    exact ⟨fun i hi => Series.not_ends_iff.1 (hbefore i (by omega) (by omega)), hrun _ hattempts⟩

open Rehearsal in
/-- The second of two attempts, which take two seconds and half a second, passes. -/
theorem withRetry_run_second_attempt :
    let c : Clocked Attempts := ⟨Attempts.answer, Attempts.clock, fun _ => rfl⟩
    let start : Attempts := { clock := ⟨1500⟩, script := [⟨false, 2000⟩, ⟨true, 500⟩] }
    let s := series c .tftp 60 30 Attempts.check start
    ((c.clock start).addSeconds 60).InRange ∧
      (withRetry .tftp 60 30 Attempts.check).run c.answer start =
        ⟨.ok true, s.closing 1, .exchanged .now ⟨1500⟩ ::
          (s.trying 0 ++ s.pausing 0 ++ s.trying 1)⟩ := by
  intro c start s
  have hdeadline : ((c.clock start).addSeconds 60).InRange := by decide
  refine ⟨hdeadline, ?_⟩
  have hfirst : ¬(s.passed 0 = true ∨ s.leftBefore 0 ≤ 1 ∨ s.leftAfter 0 ≤ -(s.grace : Int)) := by
    decide
  have hsecond : s.passed 1 = true := by decide
  rcases withRetry_run c .tftp 60 30 Attempts.check start hdeadline with
    ⟨n, -, hbefore, hends, hrun⟩ | ⟨hnone, -⟩
  · have hpositive : n ≠ 0 := by
      intro hn
      exact hfirst (hn ▸ hends)
    have hle : n ≤ 1 := by
      refine Nat.le_of_not_lt fun hn => ?_
      exact Bool.false_ne_true ((hbefore 1 hn).1.symm.trans hsecond)
    obtain rfl : n = 1 := by omega
    rw [hrun]
    rfl
  · exact absurd ((hnone 1 (by decide)).1.symm.trans hsecond) Bool.false_ne_true

end ClusterHealth.Retry
