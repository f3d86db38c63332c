import ClusterHealth.Proofs.Retry.Pause
import Mathlib.Algebra.Ring.Int.Defs
import Mathlib.Algebra.Ring.Nat

/-! Pauses in machine words: whatever the arguments are, every step of their computation fits in a
word, so that they are as long as those of unbounded numbers. -/
namespace ClusterHealth.Retry

/-- An exact result as a word of 64 bits with a sign, if it fits in one. -/
def word? (n : Int) : Option Int64 :=
  if -2 ^ 63 ≤ n ∧ n < 2 ^ 63 then some (.ofInt n) else none

/-- The steps of `backoff` in machine words; `none` as soon as a result does not fit. -/
def backoffWord? (attempt : UInt32) (timeout : UInt64) : Option Int64 := do
  let share ← word? (timeout / 6).toNat
  let grown ← word? (step * attempt.toNat : Nat)
  return min grown share

/-- The steps of `sleepSeconds` in machine words. -/
def sleepWord? (attempt : UInt32) (left : Int64) (timeout : UInt64) : Option Int64 := do
  if left ≤ 1 then return 1
  let usual ← backoffWord? attempt timeout
  if left ≤ usual then return max 1 (← word? (left.toInt - 1))
  if left < (← word? (usual.toInt * 2)) then return max 1 (← word? ((left / 2).toInt + 1))
  return max 1 usual

/-- Every step fits, and the last one gives `n`. -/
def Computes (steps : Option Int64) (n : Int) : Prop := ∃ w, steps = some w ∧ w.toInt = n

theorem computes_word? {n : Int} (hlow : -2 ^ 63 ≤ n) (hhigh : n < 2 ^ 63) :
    Computes (word? n) n :=
  ⟨_, if_pos ⟨hlow, hhigh⟩, Int64.toInt_ofInt_of_le hlow hhigh⟩

theorem computes_pure {w : Int64} {n : Int} (h : w.toInt = n) : Computes (pure w) n :=
  ⟨w, rfl, h⟩

theorem Computes.bind {steps : Option Int64} {m n : Int} {f : Int64 → Option Int64}
    (h : Computes steps m) (hf : ∀ w, w.toInt = m → Computes (f w) n) :
    Computes (steps >>= f) n := by
  obtain ⟨w, rfl, hw⟩ := h
  exact hf w hw

theorem toInt_min (v w : Int64) : (min v w).toInt = min v.toInt w.toInt := by
  change (if v ≤ w then v else w).toInt = _
  split <;> rename_i h <;> rw [Int64.le_iff_toInt_le] at h <;> omega

theorem toInt_max (v w : Int64) : (max v w).toInt = max v.toInt w.toInt := by
  change (if v ≤ w then w else v).toInt = _
  split <;> rename_i h <;> rw [Int64.le_iff_toInt_le] at h <;> omega

theorem toInt_half {w : Int64} (h : 0 ≤ w.toInt) : (w / 2).toInt = w.toInt / 2 := by
  have hne : w ≠ .minValue := by
    rintro rfl
    exact absurd h (by decide)
  rw [Int64.toInt_div_of_ne_left w 2 hne]
  exact Int.tdiv_eq_ediv_of_nonneg h

theorem backoff_lt (attempt : UInt32) (timeout : Nat) :
    backoff attempt.toNat timeout < 2 ^ 62 := by
  have hattempt := attempt.toNat_lt
  unfold backoff step
  omega

theorem backoffWord?_computes (attempt : UInt32) (timeout : UInt64) :
    Computes (backoffWord? attempt timeout) (backoff attempt.toNat timeout.toNat) := by
  have hattempt := attempt.toNat_lt
  have htimeout := timeout.toNat_lt
  have hdiv : (timeout / 6).toNat = timeout.toNat / 6 := UInt64.toNat_div timeout 6
  refine (computes_word? (by omega) (by omega)).bind fun share hshare => ?_
  have hgrowth : step * attempt.toNat < 2 ^ 63 := by
    unfold step
    omega
  refine (computes_word? (by omega) (by omega)).bind fun grown hgrown => ?_
  refine computes_pure ?_
  rw [toInt_min, hgrown, hshare, hdiv]
  unfold backoff
  omega

theorem sleepWord?_computes (attempt : UInt32) (left : Int64) (timeout : UInt64) :
    Computes (sleepWord? attempt left timeout)
      (sleepSeconds attempt.toNat left.toInt timeout.toNat) := by
  have hone : (1 : Int64).toInt = 1 := rfl
  have hhigh := left.toInt_lt
  have hsmall := backoff_lt attempt timeout.toNat
  unfold sleepWord?
  by_cases hlate : left ≤ 1
  · rw [if_pos hlate, sleepSeconds_late (Int64.le_iff_toInt_le.1 hlate)]
    exact computes_pure hone
  rw [if_neg hlate]
  rw [Int64.le_iff_toInt_le, hone] at hlate
  refine (backoffWord?_computes attempt timeout).bind fun usual husual => ?_
  by_cases hshort : left ≤ usual
  · rw [if_pos hshort]
    rw [Int64.le_iff_toInt_le, husual] at hshort
    refine (computes_word? (by omega) (by omega)).bind fun w hw => computes_pure ?_
    rw [toInt_max, hone, hw, sleepSeconds_of_le_backoff (by omega) hshort]
    omega
  rw [if_neg hshort]
  rw [Int64.le_iff_toInt_le, husual] at hshort
  refine (computes_word? (by omega) (by omega)).bind fun twice htwice => ?_
  by_cases hnear : left < twice
  · rw [if_pos hnear]
    rw [Int64.lt_iff_toInt_lt, htwice, husual] at hnear
    have hhalf := toInt_half (w := left) (by omega)
    refine (computes_word? (by omega) (by omega)).bind fun w hw => computes_pure ?_
    rw [toInt_max, hone, hw, hhalf, sleepSeconds_of_near (by omega) (by omega) (by omega)]
    omega
  · rw [if_neg hnear]
    rw [Int64.lt_iff_toInt_lt, htwice, husual] at hnear
    refine computes_pure ?_
    rw [toInt_max, hone, husual, sleepSeconds_of_far (by omega) (by omega)]
    omega

/-- How long a pause of `s` seconds is that begins `left` seconds before the deadline, if a usual
one takes `b`. It matters whether two usual ones fit. -/
structure Measured (b : Nat) (left : Int) (s : Nat) : Prop where
  one_le : 1 ≤ s
  le_usual : s ≤ max 1 b
  lt_left (h : 2 ≤ left) : s ≤ left - 1
  far (h : 2 ≤ left) (hfar : 2 * (b : Int) ≤ left) : s = max 1 b
  near (h : 2 ≤ left) (hnear : left < 2 * (b : Int)) :
    0 < left - s ∧ (left - s = 1 ∨ left - s < b)

theorem sleepSeconds_measured (attempt : Nat) (left : Int) (timeout : Nat) :
    Measured (backoff attempt timeout) left (sleepSeconds attempt left timeout) where
  one_le := one_le_sleepSeconds attempt left timeout
  le_usual := sleepSeconds_le attempt left timeout
  lt_left h := by
    have hlt := sleepSeconds_lt h attempt timeout
    omega
  far h hfar := sleepSeconds_of_far h hfar
  near h hnear := by
    have hlt := sleepSeconds_lt h attempt timeout
    exact ⟨by omega, left_sub_sleepSeconds_of_near h hnear⟩

/-- If two usual pauses do not fit, the one behind the next attempt ends a second before the
deadline, however long that attempt takes. -/
theorem left_sub_sleepSeconds_next {m n t : Nat} {left later : Int} (hm : m ≤ n) (h : 2 ≤ left)
    (hnear : left < 2 * (backoff m t : Int)) (hlater : 2 ≤ later)
    (hle : later ≤ left - sleepSeconds m left t) : later - sleepSeconds n later t = 1 := by
  have hmono := backoff_mono hm (Nat.le_refl t)
  have hleft := left_sub_sleepSeconds_of_near h hnear
  rw [sleepSeconds_of_le_backoff hlater (by omega)]
  omega

/-- In machine words no step overflows; the pause is as long as it should be, also the one behind a
pause that was cut short; and neither a later attempt nor more time in all makes it shorter. -/
theorem sleepSeconds_in_words (attempt : UInt32) (left : Int64) (timeout : UInt64) :
    let b := min (5 * attempt.toNat) (timeout.toNat / 6)
    let s := sleepSeconds attempt.toNat left.toInt timeout.toNat
    (∃ w, sleepWord? attempt left timeout = some w ∧ w.toInt = s) ∧
      Measured b left.toInt s ∧
      (∀ (next : UInt32) (later : Int64), 2 ≤ left → left.toInt < 2 * b → attempt ≤ next →
        2 ≤ later → later.toInt ≤ left.toInt - s →
        later.toInt - sleepSeconds next.toNat later.toInt timeout.toNat = 1) ∧
      (∀ next : UInt32, attempt ≤ next →
        s ≤ sleepSeconds next.toNat left.toInt timeout.toNat) ∧
      ∀ longer : UInt64, timeout ≤ longer →
        s ≤ sleepSeconds attempt.toNat left.toInt longer.toNat := by
  refine ⟨sleepWord?_computes attempt left timeout, sleepSeconds_measured .., ?_, ?_, ?_⟩
  · intro next later hleft hnear hnext hlater hle
    exact left_sub_sleepSeconds_next (UInt32.le_iff_toNat_le.1 hnext)
      (Int64.le_iff_toInt_le.1 hleft) hnear (Int64.le_iff_toInt_le.1 hlater) hle
  · intro next hnext
    exact sleepSeconds_mono (UInt32.le_iff_toNat_le.1 hnext) (Nat.le_refl _) left.toInt
  · intro longer hlonger
    exact sleepSeconds_mono (Nat.le_refl _) (UInt64.le_iff_toNat_le.1 hlonger) left.toInt

/-- With 20 of 300 seconds left, the third pause takes 11 instead of 15, and the fourth one 8 of the
9 that are left; the first pause is not cut short. -/
theorem sleepSeconds_in_words_of_twenty :
    (∃ w, sleepWord? 3 20 300 = some w ∧ w.toInt = 11) ∧
      ((20 : Int) - 11 = 1 ∨ (20 : Int) - 11 < 15) ∧ (9 : Int) - sleepSeconds 4 9 300 = 1 ∧
      11 ≤ sleepSeconds 4 20 300 ∧ 11 ≤ sleepSeconds 3 20 301 ∧
      sleepSeconds 1 20 300 = max 1 5 := by
  obtain ⟨hword, hmeasured, hnext, hattempt, htimeout⟩ := sleepSeconds_in_words 3 20 300
  obtain ⟨-, hfirst, -⟩ := sleepSeconds_in_words 1 20 300
  have hpause : sleepSeconds (3 : UInt32).toNat (20 : Int64).toInt (300 : UInt64).toNat = 11 := by
    decide
  rw [hpause] at hword hmeasured
  exact ⟨hword, (hmeasured.near (by decide) (by decide)).2,
    hnext 4 9 (by decide) (by decide) (by decide) (by decide) (by decide),
    hpause ▸ hattempt 4 (by decide), hpause ▸ htimeout 301 (by decide),
    hfirst.far (by decide) (by decide)⟩

end ClusterHealth.Retry
