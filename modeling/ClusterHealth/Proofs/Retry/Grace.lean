import ClusterHealth.Proofs.Retry.Termination

/-!
When failing attempts are given up behind the deadline. Both the deadline and the clock are rounded
down to seconds before they are compared, so that the grace period is cut short by the part of a
second that the deadline lies behind a full one.
-/
namespace ClusterHealth.Retry
open Procedure

namespace Series
variable {σ : Type} (s : Series σ)

/-- The end of the grace period. -/
def graceEnd : Instant := s.plan.deadline.addSeconds s.grace

/-- Attempt `i` is the last one, and the run fails behind it on account of the grace period. -/
def GivesUp (i count : Nat) (run : Outcome σ Verdict) : Prop :=
  i + 1 = count ∧ run.value = .ok false ∧ run.events.getLast? = some (.logged s.graceEntry)

variable {s} {i count : Nat} {run : Outcome σ Verdict}

theorem leftAfter_le_neg_grace_iff : s.leftAfter i ≤ -(s.grace : Int) ↔
    s.graceEnd.millis - s.plan.deadline.millis % 1000 ≤
      (s.within.clock (s.closing i)).millis := by
  have hdeadline := Instant.seconds_eq s.plan.deadline
  have hclosing := Instant.seconds_eq (s.within.clock (s.closing i))
  have hend : s.graceEnd.millis = s.plan.deadline.millis + s.grace * 1000 := rfl
  -- The grace period is of whole seconds: the part that counts is the deadline's own.
  unfold leftAfter Plan.secondsLeft
  omega

/-- An attempt that fails, and is not a final one, decides only if the grace period is over. -/
theorem Makes.givesUp_iff (h : s.Makes count run) (hi : i < count) (hfailed : s.passed i = false)
    (hleft : 1 < s.leftBefore i) : s.GivesUp i count run ↔ s.leftAfter i ≤ -(s.grace : Int) := by
  constructor
  · intro hgivesUp
    obtain ⟨hlast, hvalue, -⟩ := hgivesUp
    cases h with
    | decided last _ _ hends =>
      obtain rfl : i = last := by omega
      rcases hends with hpassed | hfinal | hgrace
      · exact absurd (hfailed.symm.trans hpassed) Bool.false_ne_true
      · omega
      · exact hgrace
    | exhausted _ => cases hvalue
  · intro hgrace
    have hends : s.Ends i := .inr (.inr hgrace)
    have hlast : i + 1 = count := h.count_of_ends hi hends
    cases h with
    | decided last _ _ _ =>
      obtain rfl : i = last := by omega
      have hending : s.ending i = [s.reading i, .logged s.graceEntry] := by
        have hnotFinal : ¬s.leftBefore i ≤ 1 := by omega
        rw [ending, hfailed, if_neg Bool.false_ne_true, if_neg hnotFinal]
      refine ⟨rfl, congrArg _ hfailed, ?_⟩
      dsimp only
      rw [hending, List.getLast?_cons, List.getLast?_append, List.getLast?_append]
      rfl
    | exhausted hreaches => exact absurd hends (hreaches i hi)

theorem Makes.followed (h : s.Makes count run) (hi : i < count) (hends : ¬s.Ends i) :
    i + 1 < count ∨ run.value = .error .attemptsExhausted := by
  cases h with
  | decided last _ _ hlast =>
    have hne : i ≠ last := fun heq => hends (heq ▸ hlast)
    left
    omega
  | exhausted _ => exact .inr rfl

end Series

variable {σ : Type}

/-- Behind a failed attempt that was not a final one the run is given up if the grace period is
over, or would be if the deadline lay on a full second. Otherwise another attempt follows, unless
there were too many to be counted. -/
theorem withRetry_gives_up_iff (c : Clocked σ) (service : ServiceKey) (timeout grace : Nat)
    (check : Procedure Bool) (start : σ)
    (hdeadline : ((c.clock start).addSeconds timeout).InRange) :
    let s := series c service timeout grace check start
    let run := (withRetry service timeout grace check).run c.answer start
    ∃ count, s.Makes count run ∧
      ∀ i < count, s.passed i = false → 1 < s.leftBefore i →
        let ended := (c.clock (s.closing i)).millis
        let limit := s.graceEnd.millis - s.plan.deadline.millis % 1000
        (s.GivesUp i count run ↔ limit ≤ ended) ∧
          (ended < limit → i + 1 < count ∨ run.value = .error .attemptsExhausted) := by
  intro s run
  obtain ⟨count, hmakes⟩ := withRetry_makes c service timeout grace check start hdeadline
  refine ⟨count, hmakes, fun i hi hfailed hleft => ?_⟩
  intro ended limit
  have hlimit : s.leftAfter i ≤ -(s.grace : Int) ↔ limit ≤ ended :=
    Series.leftAfter_le_neg_grace_iff
  have hgivesUp := hmakes.givesUp_iff hi hfailed hleft
  refine ⟨hgivesUp.trans hlimit, fun hended => ?_⟩
  have hgrace : -(s.grace : Int) < s.leftAfter i := by
    by_contra hover
    have hle : limit ≤ ended := hlimit.1 (by omega)
    omega
  exact hmakes.followed hi (Series.not_ends_iff.2 ⟨hfailed, hleft, hgrace⟩)

open Rehearsal in
/-- The grace period of a deadline at 10.9 s ends at 40.9 s, but is cut short to 40 s: from then on
nothing is tried again, and one millisecond before that there is another attempt. -/
theorem withRetry_gives_up_at_forty_seconds :
    let c : Clocked Attempts := ⟨Attempts.answer, Attempts.clock, fun _ => rfl⟩
    let start (millis : Int) : Attempts :=
      { clock := ⟨900⟩, script := [⟨false, millis⟩, ⟨true, 0⟩] }
    let s (millis : Int) := series c .tftp 10 30 Attempts.check (start millis)
    let run (millis : Int) := (withRetry .tftp 10 30 Attempts.check).run c.answer (start millis)
    (∀ millis, ((c.clock (start millis)).addSeconds 10).InRange) ∧
      (s 39100).graceEnd = ⟨40900⟩ ∧ c.clock ((s 39100).closing 0) = ⟨40000⟩ ∧
      (s 39100).GivesUp 0 1 (run 39100) ∧
      ∃ count, (s 39099).Makes count (run 39099) ∧ ¬(s 39099).GivesUp 0 count (run 39099) ∧
        1 < count := by
  intro c start s run
  have hdeadline : ((⟨900⟩ : Instant).addSeconds 10).InRange := by decide
  obtain ⟨late, hlate, hlimit⟩ :=
    withRetry_gives_up_iff c .tftp 10 30 Attempts.check (start 39100) hdeadline
  obtain ⟨early, hearly, hbefore⟩ :=
    withRetry_gives_up_iff c .tftp 10 30 Attempts.check (start 39099) hdeadline
  have hgivesUp : (s 39100).GivesUp 0 late (run 39100) := by
    have hfirst : 0 < late := hlate.lt_of_reaches (by decide) (by decide)
    exact (hlimit 0 hfirst (by decide) (by decide)).1.2 (by decide)
  have hgoesOn : ¬(s 39099).GivesUp 0 early (run 39099) := by
    have hfirst : 0 < early := hearly.lt_of_reaches (by decide) (by decide)
    exact mt (hbefore 0 hfirst (by decide) (by decide)).1.1 (by decide)
  have hone : late = 1 := hgivesUp.1.symm
  have hsecond : 1 < early := hearly.lt_of_reaches (by decide) (by decide)
  have hend : (s 39100).graceEnd = ⟨40900⟩ := by decide
  subst hone
  exact ⟨fun _ => hdeadline, hend, rfl, hgivesUp, early, hearly, hgoesOn, hsecond⟩

open Rehearsal in
/-- Not everything that is given up behind the deadline is given up behind the grace period. -/
theorem exists_given_up_in_grace :
    ¬∀ (σ : Type) (c : Clocked σ) (service : ServiceKey) (timeout grace : Nat)
      (check : Procedure Bool) (start : σ), c.SleepsExactly →
        ((c.clock start).addSeconds timeout).InRange →
          let s := series c service timeout grace check start
          let run := (withRetry service timeout grace check).run c.answer start
          s.Onward → ∀ count, s.Makes count run →
            ∀ i < count, s.passed i = false → 1 < s.leftBefore i →
              let ended := (c.clock (s.closing i)).millis
              (s.GivesUp i count run → s.graceEnd.millis ≤ ended) ∧
                (ended < s.graceEnd.millis → i + 1 < count) := by
  intro h
  let c : Clocked Attempts := ⟨Attempts.answer, Attempts.clock, fun _ => rfl⟩
  let start : Attempts := { clock := ⟨900⟩, script := [⟨false, 39100⟩, ⟨true, 0⟩] }
  let s := series c .tftp 10 30 Attempts.check start
  have hdeadline : ((c.clock start).addSeconds 10).InRange := by decide
  obtain ⟨count, hmakes⟩ := withRetry_makes c .tftp 10 30 Attempts.check start hdeadline
  have hends : s.Ends 0 := by decide
  have hfirst : 0 < count := hmakes.lt_of_reaches (by decide) (by decide)
  have hlast : 0 + 1 = count := hmakes.count_of_ends hfirst hends
  have honward : s.Onward := by
    intro i hi
    have hzero : i = 0 := by
      by_contra hne
      exact hi 0 (by omega) hends
    subst hzero
    decide
  obtain ⟨-, hfollowed⟩ := h Attempts c .tftp 10 30 Attempts.check start (fun _ _ => rfl) hdeadline
    honward count hmakes 0 hfirst (by decide) (by decide)
  have hagain : 0 + 1 < count := hfollowed (by decide)
  omega

end ClusterHealth.Retry
