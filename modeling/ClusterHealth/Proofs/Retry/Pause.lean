import ClusterHealth.Retry

/-! How long the pauses between attempts are, and how they shift the clock. -/
namespace ClusterHealth

namespace Instant

theorem seconds_eq (t : Instant) : t.seconds = t.millis / 1000 :=
  Int.fdiv_eq_ediv_of_nonneg t.millis (by decide)

/-- Whole seconds do not disturb the rounding. -/
theorem seconds_addSeconds (t : Instant) (n : Int) : (t.addSeconds n).seconds = t.seconds + n := by
  rw [seconds_eq, seconds_eq]
  change (t.millis + n * 1000) / 1000 = t.millis / 1000 + n
  omega

theorem addSeconds_addSeconds (t : Instant) (m n : Int) :
    (t.addSeconds m).addSeconds n = t.addSeconds (m + n) := by
  simp only [addSeconds, mk.injEq]
  omega

theorem seconds_mono {t u : Instant} (h : t.millis ≤ u.millis) : t.seconds ≤ u.seconds := by
  rw [seconds_eq, seconds_eq]
  omega

theorem millis_lt_of_seconds_lt {t u : Instant} (h : t.seconds < u.seconds) :
    t.millis < u.millis := by
  rw [seconds_eq, seconds_eq] at h
  omega

end Instant

namespace Retry

theorem backoff_mono {m n t u : Nat} (hm : m ≤ n) (ht : t ≤ u) : backoff m t ≤ backoff n u := by
  unfold backoff step
  omega

theorem one_le_sleepSeconds (attempt : Nat) (left : Int) (timeout : Nat) :
    1 ≤ sleepSeconds attempt left timeout := by
  unfold sleepSeconds
  split
  · exact Nat.le_refl 1
  · exact Nat.le_max_left ..

theorem sleepSeconds_late {left : Int} (h : left ≤ 1) (attempt timeout : Nat) :
    sleepSeconds attempt left timeout = 1 := if_pos h

variable {attempt timeout : Nat} {left : Int}

/-- The next attempt begins with one second left. -/
theorem sleepSeconds_of_le_backoff (h : 2 ≤ left) (hb : left ≤ backoff attempt timeout) :
    (sleepSeconds attempt left timeout : Int) = left - 1 := by
  have hlate : ¬left ≤ 1 := by omega
  simp only [sleepSeconds, if_neg hlate, if_pos hb]
  omega

theorem sleepSeconds_of_near (h : 2 ≤ left) (hb : (backoff attempt timeout : Int) < left)
    (hnear : left < 2 * (backoff attempt timeout : Int)) :
    (sleepSeconds attempt left timeout : Int) = left / 2 + 1 := by
  have hlate : ¬left ≤ 1 := by omega
  have hshort : ¬left ≤ backoff attempt timeout := by omega
  simp only [sleepSeconds, if_neg hlate, if_neg hshort, if_pos hnear]
  omega

theorem sleepSeconds_of_far (h : 2 ≤ left) (hfar : 2 * (backoff attempt timeout : Int) ≤ left) :
    sleepSeconds attempt left timeout = max 1 (backoff attempt timeout) := by
  have hlate : ¬left ≤ 1 := by omega
  have hshort : ¬left ≤ backoff attempt timeout := by omega
  have hnear : ¬left < 2 * (backoff attempt timeout : Int) := by omega
  simp only [sleepSeconds, if_neg hlate, if_neg hshort, if_neg hnear]

/-- How the pause is cut, by how many usual ones fit in the time left. -/
theorem sleepSeconds_cases (attempt : Nat) (left : Int) (timeout : Nat) :
    let b := backoff attempt timeout
    let s := sleepSeconds attempt left timeout
    left ≤ 1 ∧ s = 1 ∨
      2 ≤ left ∧ left ≤ b ∧ (s : Int) = left - 1 ∨
      2 ≤ left ∧ b < left ∧ left < 2 * (b : Int) ∧ (s : Int) = left / 2 + 1 ∨
      2 ≤ left ∧ 2 * (b : Int) ≤ left ∧ s = max 1 b := by
  intro b s
  by_cases hlate : left ≤ 1
  · exact .inl ⟨hlate, sleepSeconds_late hlate attempt timeout⟩
  have htwo : 2 ≤ left := by omega
  by_cases hshort : left ≤ b
  · exact .inr (.inl ⟨htwo, hshort, sleepSeconds_of_le_backoff htwo hshort⟩)
  have hlong : b < left := by omega
  by_cases hnear : left < 2 * (b : Int)
  · exact .inr (.inr (.inl ⟨htwo, hlong, hnear, sleepSeconds_of_near htwo hlong hnear⟩))
  · have hfar : 2 * (b : Int) ≤ left := by omega
    exact .inr (.inr (.inr ⟨htwo, hfar, sleepSeconds_of_far htwo hfar⟩))

/-- A pause that begins with two seconds left or more ends with at least one left. -/
theorem sleepSeconds_lt (h : 2 ≤ left) (attempt timeout : Nat) :
    (sleepSeconds attempt left timeout : Int) < left := by
  have hcases := sleepSeconds_cases attempt left timeout
  omega

/-- Pauses are cut short, never drawn out, but they take a second at least. -/
theorem sleepSeconds_le (attempt : Nat) (left : Int) (timeout : Nat) :
    sleepSeconds attempt left timeout ≤ max 1 (backoff attempt timeout) := by
  have hcases := sleepSeconds_cases attempt left timeout
  omega

/-- If two usual pauses do not fit, no second one follows in full: a second is left behind this one,
or less than a usual pause takes. -/
theorem left_sub_sleepSeconds_of_near (h : 2 ≤ left)
    (hnear : left < 2 * (backoff attempt timeout : Int)) :
    left - sleepSeconds attempt left timeout = 1 ∨
      left - sleepSeconds attempt left timeout < backoff attempt timeout := by
  have hcases := sleepSeconds_cases attempt left timeout
  omega

/-- Neither a later attempt nor more time in all makes a pause shorter. -/
theorem sleepSeconds_mono {m n t u : Nat} (hm : m ≤ n) (ht : t ≤ u) (left : Int) :
    sleepSeconds m left t ≤ sleepSeconds n left u := by
  have hmono := backoff_mono hm ht
  have hshorter := sleepSeconds_cases m left t
  have hlonger := sleepSeconds_cases n left u
  -- A whole pause takes half of the time left at most, and one that is cut takes that at least.
  omega

end Retry
end ClusterHealth
