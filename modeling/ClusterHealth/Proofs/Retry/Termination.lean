import ClusterHealth.Proofs.Retry.Deadline
import Mathlib.Tactic.IntervalCases

/-!
How many attempts there are. The measure is the time that is left: it shrinks by a second at least
with every attempt, and after a few million attempts by so much that no calendar could hold it.
-/
namespace ClusterHealth.Retry
open Procedure

namespace Series
variable {σ : Type} (s : Series σ)

/-- No check moves the clock backwards. -/
def Onward : Prop :=
  ∀ i, s.Reaches i →
    (s.within.clock (s.opening i)).millis ≤ (s.within.clock (s.closing i)).millis

/-- A pause of the usual length fits in twice behind attempt `i`. -/
def Far (i : Nat) : Prop := 2 * (backoff (i + 1) s.plan.timeout : Int) ≤ s.leftAfter i

variable {s} {i : Nat}

theorem Reaches.mono {j : Nat} (h : s.Reaches i) (hj : j ≤ i) : s.Reaches j :=
  fun k hk => h k (by omega)

theorem leftAfter_le_leftBefore (honward : s.Onward) (h : s.Reaches i) :
    s.leftAfter i ≤ s.leftBefore i := by
  have hseconds := Instant.seconds_mono (honward i h)
  unfold leftAfter leftBefore Plan.secondsLeft
  omega

theorem leftBefore_succ_lt (hsleep : s.within.SleepsExactly) (honward : s.Onward)
    (h : s.Reaches i) : s.leftBefore (i + 1) < s.leftBefore i := by
  have hafter := leftAfter_le_leftBefore honward h
  have hpause := one_le_sleepSeconds (i + 1) (s.leftAfter i) s.plan.timeout
  rw [leftBefore_succ hsleep]
  omega

theorem Reaches.leftBefore_le (hsleep : s.within.SleepsExactly) (honward : s.Onward)
    (h : s.Reaches i) : s.leftBefore i + i ≤ s.leftBefore 0 := by
  induction i with
  | zero => simp
  | succ i ih =>
    have hi : s.Reaches i := h.mono (Nat.le_succ i)
    have hlt := leftBefore_succ_lt hsleep honward hi
    have hle := ih hi
    omega

theorem Reaches.lt_left (hsleep : s.within.SleepsExactly) (honward : s.Onward)
    (h : s.Reaches (i + 1)) : (i : Int) + 1 < s.leftBefore 0 := by
  obtain ⟨-, hleft, -⟩ := not_ends_iff.1 (h i (Nat.lt_succ_self i))
  have hle := (h.mono (Nat.le_succ i)).leftBefore_le hsleep honward
  omega

/-- Behind an attempt that leaves no more than the usual pause comes the last one. -/
theorem ends_succ_of_le_backoff (hsleep : s.within.SleepsExactly)
    (h : s.leftAfter i ≤ backoff (i + 1) s.plan.timeout) : s.Ends (i + 1) := by
  have hlast : s.leftBefore (i + 1) ≤ 1 := by
    by_cases hlate : s.leftAfter i ≤ 1
    · rw [leftBefore_succ_of_late hsleep hlate]
      omega
    · rw [leftBefore_succ hsleep, sleepSeconds_of_le_backoff (by omega) h]
      omega
  exact .inr (.inl hlast)

/-- A pause that is cut short leaves two attempts at most. -/
theorem not_reaches_of_not_far (hsleep : s.within.SleepsExactly) (honward : s.Onward)
    (h : ¬s.Far i) : ¬s.Reaches (i + 3) := by
  intro hreaches
  have hfirst : ¬s.Ends (i + 1) := hreaches (i + 1) (by omega)
  have hsecond : ¬s.Ends (i + 2) := hreaches (i + 2) (by omega)
  have hnear : s.leftAfter i < 2 * (backoff (i + 1) s.plan.timeout : Int) := by
    unfold Far at h
    omega
  by_cases hlate : s.leftAfter i ≤ 1
  · exact hfirst (ends_succ_of_le_backoff hsleep (by omega))
  have hbehind := left_sub_sleepSeconds_of_near (by omega) hnear
  rw [← leftBefore_succ hsleep] at hbehind
  rcases hbehind with hlast | hless
  · exact hfirst (.inr (.inl (by omega)))
  -- Less is left behind this pause than the next usual one takes.
  · have hmono : backoff (i + 1) s.plan.timeout ≤ backoff (i + 1 + 1) s.plan.timeout :=
      backoff_mono (Nat.le_succ (i + 1)) (Nat.le_refl s.plan.timeout)
    have hafter := leftAfter_le_leftBefore honward (hreaches.mono (by omega : i + 1 ≤ i + 3))
    exact hsecond (ends_succ_of_le_backoff hsleep (by omega))

/-! With more than 2^32 seconds to spend, pauses are not bounded by their share of that time until
attempt 2^22. -/

theorem le_backoff_of_long {timeout : Nat} (hlong : 2 ^ 32 ≤ timeout) (hi : 2 ^ 21 ≤ i) :
    5 * 2 ^ 21 ≤ backoff (i + 1) timeout := by
  unfold backoff step
  omega

theorem leftBefore_succ_of_far (hsleep : s.within.SleepsExactly) (honward : s.Onward)
    (hlong : 2 ^ 32 ≤ s.plan.timeout) (hi : 2 ^ 21 ≤ i) (hreaches : s.Reaches i)
    (hfar : s.Far i) : s.leftBefore (i + 1) + 5 * 2 ^ 21 ≤ s.leftBefore i := by
  have hb := le_backoff_of_long hlong hi
  have hafter := leftAfter_le_leftBefore honward hreaches
  unfold Far at hfar
  rw [leftBefore_succ hsleep, sleepSeconds_of_far (by omega) hfar]
  omega

theorem leftBefore_le_of_far (hsleep : s.within.SleepsExactly) (honward : s.Onward)
    (hlong : 2 ^ 32 ≤ s.plan.timeout) {m : Nat} (hreaches : s.Reaches (2 ^ 21 + m))
    (hfar : ∀ j < 2 ^ 21 + m, s.Far j) :
    s.leftBefore (2 ^ 21 + m) + 5 * 2 ^ 21 * m ≤ s.leftBefore 0 := by
  induction m with
  | zero =>
    have hle := hreaches.leftBefore_le hsleep honward
    omega
  | succ m ih =>
    have hm : s.Reaches (2 ^ 21 + m) := hreaches.mono (by omega)
    have hle := ih hm fun j hj => hfar j (by omega)
    have hstep := leftBefore_succ_of_far hsleep honward hlong (by omega) hm (hfar _ (by omega))
    rw [← Nat.add_assoc]
    omega

theorem exists_not_far (hsleep : s.within.SleepsExactly) (honward : s.Onward)
    (hlong : 2 ^ 32 ≤ s.plan.timeout) (htotal : s.leftBefore 0 < 2 ^ 44)
    (hreaches : s.Reaches (2 ^ 22)) : ∃ j < 2 ^ 22, ¬s.Far j := by
  by_contra hnone
  have hfar : ∀ j < 2 ^ 22, s.Far j := fun j hj => by
    by_contra hj'
    exact hnone ⟨j, hj, hj'⟩
  have hle := leftBefore_le_of_far hsleep honward hlong (m := 2 ^ 21) hreaches hfar
  have hlast := hfar (2 ^ 22 - 1) (by omega)
  have hb := le_backoff_of_long hlong (by omega : 2 ^ 21 ≤ 2 ^ 22 - 1)
  unfold Far at hlast
  have hone : 1 ≤ s.leftBefore (2 ^ 22 - 1 + 1) := one_le_leftBefore_succ hsleep (by omega)
  have hcount : 2 ^ 22 - 1 + 1 = 2 ^ 21 + 2 ^ 21 := rfl
  rw [hcount] at hone
  omega

theorem Reaches.lt_of_long (hsleep : s.within.SleepsExactly) (honward : s.Onward)
    (hlong : 2 ^ 32 ≤ s.plan.timeout) (htotal : s.leftBefore 0 < 2 ^ 44) (h : s.Reaches i) :
    i < 2 ^ 22 + 3 := by
  by_contra hi
  obtain ⟨j, hj, hnear⟩ :=
    exists_not_far hsleep honward hlong htotal (h.mono (by omega : 2 ^ 22 ≤ i))
  exact not_reaches_of_not_far hsleep honward hnear (h.mono (by omega))

theorem Reaches.lt_attemptBound (hsleep : s.within.SleepsExactly) (honward : s.Onward)
    (htotal : s.leftBefore 0 = s.plan.timeout) (hshort : s.plan.timeout < 2 ^ 44)
    (h : s.Reaches i) : i < attemptBound := by
  have hbound : attemptBound = 2 ^ 32 - 1 := rfl
  by_cases hlong : 2 ^ 32 ≤ s.plan.timeout
  · have hlt := h.lt_of_long hsleep honward hlong (by omega)
    omega
  · have hle := h.leftBefore_le hsleep honward
    cases i with
    | zero => omega
    | succ i =>
      have hlt := h.lt_left hsleep honward
      omega

end Series

variable {σ : Type}

theorem leftBefore_series (c : Clocked σ) (service : ServiceKey) (timeout grace : Nat)
    (check : Procedure Bool) (start : σ) :
    (series c service timeout grace check start).leftBefore 0 = timeout := by
  change ((c.clock start).addSeconds timeout).seconds - (c.clock start).seconds = timeout
  rw [Instant.seconds_addSeconds]
  omega

/-- The calendar is not wider than this. -/
theorem timeout_lt_of_inRange {t : Instant} {timeout : Nat} (hstart : t.InRange)
    (hdeadline : (t.addSeconds timeout).InRange) : timeout < 2 ^ 44 := by
  have hearliest : -8334601228800000 ≤ t.millis := hstart.1
  have hlatest : t.millis + timeout * 1000 ≤ 8210266876799999 := hdeadline.2
  omega

/-- If the clock never runs backwards, there is an attempt that no other one follows. -/
theorem withRetry_decides (c : Clocked σ) (hsleep : c.SleepsExactly) (service : ServiceKey)
    (timeout grace : Nat) (check : Procedure Bool) (start : σ) (hstart : (c.clock start).InRange)
    (hdeadline : ((c.clock start).addSeconds timeout).InRange)
    (honward : (series c service timeout grace check start).Onward) :
    let s := series c service timeout grace check start
    let run := (withRetry service timeout grace check).run c.answer start
    ∃ last, s.Makes (last + 1) run ∧ s.Reaches last ∧ s.Ends last ∧
      run.value = .ok (s.passed last) := by
  intro s run
  have htotal : s.leftBefore 0 = timeout := leftBefore_series ..
  have hshort : timeout < 2 ^ 44 := timeout_lt_of_inRange hstart hdeadline
  obtain ⟨count, hmakes⟩ := withRetry_makes c service timeout grace check start hdeadline
  change s.Makes count run at hmakes
  generalize run = outcome at hmakes ⊢
  cases hmakes with
  | decided last hlast hreaches hends =>
    exact ⟨last, .decided last hlast hreaches hends, hreaches, hends, rfl⟩
  | exhausted hreaches =>
    have hlt := hreaches.lt_attemptBound hsleep honward htotal hshort
    exact absurd hlt (Nat.lt_irrefl _)

/-- If the clock never runs backwards, there are no more attempts than seconds, and always few
enough to be counted. -/
theorem withRetry_terminates (c : Clocked σ) (hsleep : c.SleepsExactly) (service : ServiceKey)
    (timeout grace : Nat) (check : Procedure Bool) (start : σ) (hstart : (c.clock start).InRange)
    (hdeadline : ((c.clock start).addSeconds timeout).InRange)
    (honward : (series c service timeout grace check start).Onward) :
    let s := series c service timeout grace check start
    let run := (withRetry service timeout grace check).run c.answer start
    ∃ count, s.Makes count run ∧ (∃ passed, run.value = .ok passed) ∧ count ≤ max 1 timeout ∧
      count < 2 ^ 32 := by
  intro s run
  have htotal : s.leftBefore 0 = timeout := leftBefore_series ..
  have hrange := timeout_lt_of_inRange hstart hdeadline
  have hseconds (i : Nat) (hi : s.Reaches i) : i + 1 ≤ max 1 timeout := by
    cases i with
    | zero => omega
    | succ i =>
      have hlt : (i : Int) + 1 < s.leftBefore 0 := hi.lt_left hsleep honward
      omega
  have hcounted (i : Nat) (hi : s.Reaches i) : i + 1 < 2 ^ 32 := by
    by_cases hlong : 2 ^ 32 ≤ timeout
    · have hshort : s.leftBefore 0 < 2 ^ 44 := by omega
      have hlt := hi.lt_of_long hsleep honward hlong hshort
      omega
    · have hle := hseconds i hi
      omega
  obtain ⟨count, hmakes⟩ := withRetry_makes c service timeout grace check start hdeadline
  refine ⟨count, hmakes, ?_⟩
  generalize hrun : (withRetry service timeout grace check).run c.answer start = outcome at hmakes
  cases hmakes with
  | decided last _ hreaches _ =>
    exact ⟨⟨_, congrArg Outcome.value hrun⟩, hseconds last hreaches, hcounted last hreaches⟩
  | exhausted hreaches =>
    have hlt := hcounted attemptBound hreaches
    exact absurd hlt (Nat.lt_irrefl _)

open Rehearsal in
/-- Four seconds are enough for four attempts that take no time, and for no more. -/
theorem withRetry_terminates_after_four :
    let c : Clocked Attempts := ⟨Attempts.answer, Attempts.clock, fun _ => rfl⟩
    let start : Attempts := { clock := ⟨1999⟩, script := [⟨false, 0⟩] }
    let s := series c .ims 4 30 Attempts.check start
    c.SleepsExactly ∧ (c.clock start).InRange ∧ ((c.clock start).addSeconds 4).InRange ∧
      s.Onward ∧ s.Makes 4 ((withRetry .ims 4 30 Attempts.check).run c.answer start) := by
  intro c start s
  have hsleep : c.SleepsExactly := fun _ _ => rfl
  have hstart : (c.clock start).InRange := by decide
  have hdeadline : ((c.clock start).addSeconds 4).InRange := by decide
  have hlast : s.Ends 3 := by decide
  have honward : s.Onward := by
    intro i hi
    have hle : i < 4 := by
      by_contra hge
      exact hi 3 (by omega) hlast
    interval_cases i <;> decide
  have hreaches : s.Reaches 3 := by decide
  obtain ⟨count, hmakes, -, hle, -⟩ :=
    withRetry_terminates c hsleep .ims 4 30 Attempts.check start hstart hdeadline honward
  have hlt : 3 < count := hmakes.lt_of_reaches (by decide) hreaches
  obtain rfl : count = 4 := by omega
  exact ⟨hsleep, hstart, hdeadline, honward, hmakes⟩

end ClusterHealth.Retry
