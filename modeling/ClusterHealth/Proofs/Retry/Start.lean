import ClusterHealth.CommandLine.Arguments
import ClusterHealth.Proofs.Config.Timeouts
import ClusterHealth.Proofs.Retry.Deadline

/-! Which timeouts attempts can be started with. Every timeout of 64 bits is accepted from
somewhere, but there is no deadline to count towards unless the calendar reaches it. -/
namespace ClusterHealth.Retry

/-- A longer timeout counts as this one. -/
def secondsBound : Nat := Nat.pow 2 63 - 1

/-- No span of time has more milliseconds. -/
def spanBound : Nat := Nat.pow 2 63 - 1

/-- Milliseconds of a timeout. -/
def span? (timeout : Nat) : Option Nat :=
  let millis := min timeout secondsBound * 1000
  if millis ≤ spanBound then some millis else none

/-- The end of the span that a timeout opens at `start`. -/
def deadline? (timeout : Nat) (start : Instant) : Option Instant := do
  let deadline : Instant := ⟨start.millis + (← span? timeout)⟩
  if deadline.InRange then some deadline else none

/-- The last millisecond of the year 9999. -/
def endOf9999 : Instant := ⟨253402300799999⟩

example : endOf9999.text = "9999-12-31T23:59:59.999Z" := by decide +kernel

variable {timeout : Nat} {start : Instant}

theorem spanBound_eq : spanBound = 9223372036854775807 := rfl

/-- Timeouts that are cut short have no span: what they are cut to is too long itself. -/
theorem span?_eq (timeout : Nat) :
    span? timeout = if timeout * 1000 ≤ spanBound then some (timeout * 1000) else none := by
  by_cases hcut : timeout ≤ secondsBound
  · rw [span?, Nat.min_eq_left hcut]
  · have hlong : ¬timeout * 1000 ≤ spanBound := by
      rw [show secondsBound = spanBound from rfl] at hcut
      omega
    rw [span?, Nat.min_eq_right (Nat.le_of_not_le hcut), if_neg hlong]
    exact if_neg (by decide)

/-- The calendar is shorter than the longest span, so that only its end matters. -/
theorem deadline?_eq (hstart : start.InRange) : deadline? timeout start =
    if (start.addSeconds timeout).InRange then some (start.addSeconds timeout) else none := by
  have hmillis : (timeout : Int) * 1000 = (timeout * 1000 : Nat) := by omega
  rw [deadline?, span?_eq, Instant.addSeconds, hmillis]
  by_cases hspan : timeout * 1000 ≤ spanBound
  · rw [if_pos hspan]
    rfl
  · have hlate : ¬Instant.InRange ⟨start.millis + (timeout * 1000 : Nat)⟩ := by
      obtain ⟨hearliest, -⟩ := hstart
      rintro ⟨-, hlatest⟩
      simp only [spanBound_eq, Instant.earliest, Instant.latest] at *
      omega
    rw [if_neg hspan, if_neg hlate]
    rfl

theorem inRange_addSeconds_iff (hstart : start.InRange) :
    (start.addSeconds timeout).InRange ↔
      start.millis + 1000 * timeout ≤ Instant.latest.millis := by
  obtain ⟨hearliest, -⟩ := hstart
  simp only [Instant.InRange, Instant.addSeconds]
  omega

theorem plan?_eq (hstart : start.InRange) (service : ServiceKey) :
    plan? service timeout start = (deadline? timeout start).map (Plan.mk service timeout) := by
  rw [plan?, deadline?_eq hstart]
  split <;> rfl

/-- Timeouts that a command line or an accepted configuration can ask for. -/
inductive Accepted (timeout : Nat) : Prop
  | option (text : String) (h : CommandLine.readTimeout? text = some timeout)
  | default (c : Config) (h : c.validate = .ok ()) (hbits : timeout < Nat.pow 2 64)
    (hdefault : c.timeouts.defaultSeconds = timeout)
  | service (c : Config) (h : c.validate = .ok ()) (hbits : timeout < Nat.pow 2 64) (name : String)
    (hentry : (name, timeout) ∈ c.timeouts.perService)

theorem lt_of_readTimeout? {text : String} (h : CommandLine.readTimeout? text = some timeout) :
    timeout < Nat.pow 2 64 := by
  unfold CommandLine.readTimeout? at h
  split at h
  · split at h
    · rename_i n _ hn
      obtain rfl : n.toNat = timeout := Option.some.inj h
      exact (Int.toNat_lt (by omega)).2 hn.2
    · cases h
  · cases h

/-- The default configuration with a timeout of its own for one service only. -/
def onlyTimeout (service : ServiceKey) (timeout : Nat) : Config :=
  let perService := [(service.name, timeout)]
  { Config.default with timeouts := { Config.Timeouts.default with perService } }

theorem validate_onlyTimeout (service : ServiceKey) (timeout : Nat) :
    (onlyTimeout service timeout).validate = .ok () := by
  have hknown : (ServiceKey.parse? service.name).isNone = false := by
    rw [ServiceKey.parse?_name]
    rfl
  have hfault : (onlyTimeout service timeout).fault? = none := by
    unfold Config.fault?
    simp only [onlyTimeout, List.find?_cons, hknown, List.find?_nil]
    exact (rfl : Config.default.fault? = none)
  rw [Config.validate, hfault]

/-- No number of 64 bits is turned down in every place. -/
theorem accepted_iff : Accepted timeout ↔ timeout < Nat.pow 2 64 := by
  constructor
  · intro h
    cases h with
    | option _ h => exact lt_of_readTimeout? h
    | default _ _ hbits _ => exact hbits
    | service _ _ hbits _ _ => exact hbits
  · intro hbits
    have hvalid := validate_onlyTimeout .bos timeout
    exact .service _ hvalid hbits ServiceKey.bos.name List.mem_cons_self

variable {σ : Type} (c : Clocked σ) (service : ServiceKey) (timeout grace : Nat)
  (check : Procedure Bool) (start : σ)

/-- Attempts are made towards a deadline exactly as far away as asked for. -/
def Starts : Prop :=
  deadline? timeout (c.clock start) = some ((c.clock start).addSeconds timeout) ∧
    ∃ count, (series c service timeout grace check start).Makes count
      ((withRetry service timeout grace check).run c.answer start)

/-- There is no deadline; nothing but the clock is asked, and no attempt is made. -/
def Fails : Prop :=
  deadline? timeout (c.clock start) = none ∧
    (withRetry service timeout grace check).run c.answer start =
      ⟨.error .deadlineOutOfRange, start, [.exchanged .now (c.clock start)]⟩

variable {c service timeout grace check start}

theorem starts_of_le (hstart : (c.clock start).InRange)
    (hle : (c.clock start).millis + 1000 * timeout ≤ Instant.latest.millis) :
    Starts c service timeout grace check start := by
  have hdeadline := (inRange_addSeconds_iff hstart).2 hle
  refine ⟨?_, withRetry_makes c service timeout grace check start hdeadline⟩
  rw [deadline?_eq hstart, if_pos hdeadline]

theorem fails_of_lt (hstart : (c.clock start).InRange)
    (hlt : Instant.latest.millis < (c.clock start).millis + 1000 * timeout) :
    Fails c service timeout grace check start := by
  have hdeadline := mt (inRange_addSeconds_iff hstart).1 (Int.not_le.2 hlt)
  have hnone : deadline? timeout (c.clock start) = none := by
    rw [deadline?_eq hstart, if_neg hdeadline]
  have hplan : plan? service timeout (c.clock start) = none := by
    rw [plan?_eq hstart, hnone, Option.map_none]
  refine ⟨hnone, ?_⟩
  rw [withRetry, c.run_now_bind]
  simp only [hplan]
  rfl

/-- Attempts are started if and only if the calendar reaches the deadline. From the years 1970 to
9999, it does for all timeouts up to a bound, and does not for any from another bound on. -/
theorem withRetry_start (c : Clocked σ) (service : ServiceKey) (timeout grace : Nat)
    (check : Procedure Bool) (start : σ) (hstart : (c.clock start).InRange) :
    (if (c.clock start).millis + 1000 * timeout ≤ Instant.latest.millis then
      Starts c service timeout grace check start
    else Fails c service timeout grace check start) ∧
    ((c.clock start).millis ≤ endOf9999.millis → timeout ≤ 7956864576000 →
      Starts c service timeout grace check start) ∧
    (0 ≤ (c.clock start).millis → 8210266876800 ≤ timeout →
      Fails c service timeout grace check start) := by
  refine ⟨?_, fun hyear hshort => starts_of_le hstart ?_, fun hyear hlong => fails_of_lt hstart ?_⟩
  · split
    · rename_i hle
      exact starts_of_le hstart hle
    · rename_i hlt
      exact fails_of_lt hstart (Int.not_le.1 hlt)
  · simp only [endOf9999, Instant.latest] at *
    omega
  · simp only [Instant.latest] at *
    omega

open Rehearsal in
/-- From the beginning of 1970, ten seconds are short enough and the longest timeout is not. -/
theorem withRetry_start_shortest_longest :
    let c : Clocked Attempts := ⟨Attempts.answer, Attempts.clock, fun _ => rfl⟩
    let start : Attempts := { clock := ⟨0⟩, script := [⟨true, 0⟩] }
    (c.clock start).InRange ∧ Starts c .bos 10 30 Attempts.check start ∧
      Fails c .bos 18446744073709551615 30 Attempts.check start := by
  intro c start
  have hstart : (c.clock start).InRange := by decide
  obtain ⟨-, hshort, -⟩ := withRetry_start c .bos 10 30 Attempts.check start hstart
  obtain ⟨-, -, hlong⟩ :=
    withRetry_start c .bos 18446744073709551615 30 Attempts.check start hstart
  exact ⟨hstart, hshort (by decide) (by decide), hlong (by decide) (by decide)⟩

open Rehearsal in
/-- Not every timeout that is accepted can be started with. -/
theorem exists_accepted_fault :
    ¬∀ (σ : Type) (c : Clocked σ) (service : ServiceKey) (timeout grace : Nat)
      (check : Procedure Bool) (start : σ), Accepted timeout → 0 ≤ (c.clock start).millis →
        (c.clock start).millis ≤ endOf9999.millis →
          ((withRetry service timeout grace check).run c.answer start).value ≠
            .error .deadlineOutOfRange := by
  intro h
  let c : Clocked Attempts := ⟨Attempts.answer, Attempts.clock, fun _ => rfl⟩
  let start : Attempts := { clock := ⟨0⟩, script := [⟨true, 0⟩] }
  have haccepted : Accepted 18446744073709551615 :=
    .option "18446744073709551615" (by decide +kernel)
  have hstart : (c.clock start).InRange := by decide
  have hfails : Fails c .bos 18446744073709551615 30 Attempts.check start :=
    fails_of_lt hstart (by decide)
  refine h Attempts c .bos 18446744073709551615 30 Attempts.check start haccepted (by decide)
    (by decide) ?_
  rw [hfails.2]

end ClusterHealth.Retry
