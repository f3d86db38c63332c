import ClusterHealth.Proofs.Requests.Harness
import ClusterHealth.Proofs.Runs

/-! Runs of checks: one test for each key that is the first with its check, in the order of the
keys, and nothing on behalf of any other key. -/
namespace ClusterHealth
open Procedure
open Event (requests)

namespace Dispatcher

/-- The keys before which there is none with the same check. -/
def leaders (keys : List ServiceKey) : List ServiceKey :=
  (List.range keys.length).filterMap fun i =>
    keys[i]?.filter fun key => ∀ earlier ∈ keys.take i, earlier.check ≠ key.check

example : leaders [.ipxe, .tftp, .gitea, .vcs, .bos, .bos] = [.ipxe, .gitea, .bos] := by decide

example : leaders ServiceKey.all = [.bos, .cfs, .conman, .crus, .gitea, .ims, .ipxe] := by decide

/-- The check of a key is not in `seen` and not that of one of the `earlier` keys. -/
def leads (seen : List Check) (earlier : List ServiceKey) (key : ServiceKey) : Bool :=
  key.check ∉ seen ∧ ∀ other ∈ earlier, other.check ≠ key.check

theorem leads_cons (seen : List Check) (key : ServiceKey) (earlier : List ServiceKey) :
    leads seen (key :: earlier) = leads (key.check :: seen) earlier := by
  funext other
  rw [leads, leads, decide_eq_decide, List.forall_mem_cons, List.mem_cons, not_or, ne_comm]
  exact and_left_comm.trans and_assoc.symm

theorem distinctChecks_congr {seen seen' : List Check} (h : ∀ check, check ∈ seen ↔ check ∈ seen')
    (keys : List ServiceKey) : distinctChecks seen keys = distinctChecks seen' keys := by
  induction keys generalizing seen seen' with
  | nil => rfl
  | cons key rest ih =>
    have hrest :
        distinctChecks (key.check :: seen) rest = distinctChecks (key.check :: seen') rest :=
      ih fun check => by rw [List.mem_cons, List.mem_cons, h]
    simp only [distinctChecks, h, hrest, ih h]

/-- By induction on the keys: the check of the first one is in `seen` for the others. -/
theorem distinctChecks_eq (seen : List Check) (keys : List ServiceKey) :
    distinctChecks seen keys = (List.range keys.length).filterMap fun i =>
      keys[i]?.filter (leads seen (keys.take i)) := by
  induction keys generalizing seen with
  | nil => rfl
  | cons key rest ih =>
    rw [List.length_cons, List.range_succ_eq_map, List.filterMap_cons, List.filterMap_map]
    simp only [Function.comp_def, Nat.succ_eq_add_one, List.getElem?_cons_succ,
      List.take_succ_cons, leads_cons, ← ih]
    by_cases hseen : key.check ∈ seen
    · have hsame (check : Check) : check ∈ seen ↔ check ∈ key.check :: seen := by
        rw [List.mem_cons, iff_or_self]
        exact (· ▸ hseen)
      have hfirst : leads seen [] key = false := by simp [leads, hseen]
      rw [distinctChecks, if_pos hseen, distinctChecks_congr hsame]
      simp [Option.filter, hfirst]
    · have hfirst : leads seen [] key = true := by simp [leads, hseen]
      simp [distinctChecks, hseen, Option.filter, hfirst]

theorem distinctChecks_eq_leaders (keys : List ServiceKey) :
    distinctChecks [] keys = leaders keys := by
  have hleads (earlier : List ServiceKey) :
      leads [] earlier = fun key => decide (∀ other ∈ earlier, other.check ≠ key.check) := by
    funext key
    simp [leads]
  rw [distinctChecks_eq]
  simp only [hleads]
  rfl

/-- How the test of a service goes. -/
structure Trial (σ : Type) where
  key : ServiceKey
  start : Instant
  tried : Outcome σ Retry.Verdict
  /-- What the clock shows behind it, with the state that is left. -/
  stop : Instant × σ

namespace Trial
variable {σ : Type} (t : Trial σ)

def elapsed : Decimal.Binary64 := Dispatcher.elapsed t.start t.stop.1

def failureEntry : Log.Entry :=
  ⟨.error, s!"FAILURE: {t.key.name} service test failed",
    [("service", t.key.name), ("elapsed_secs", t.elapsed.text)]⟩

/-- What happens behind the attempts. -/
def ending : List Event :=
  match t.tried.value with
  | .error _ => []
  | .ok passed => .exchanged .now t.stop.1 :: if passed then [] else [.logged t.failureEntry]

def events : List Event := .exchanged .now t.start :: (t.tried.events ++ t.ending)

end Trial

variable {σ : Type} (d : Dispatcher) (options : RunOptions)
  (answer : (r : Request) → σ → Reply r × σ)

/-- One attempt, or those that there is time for. -/
def tried (key : ServiceKey) (state : σ) : Outcome σ Retry.Verdict :=
  let check := d.check key.check options.includeCommands
  if options.noRetry then
    let once := check.run answer state
    ⟨.ok once.value, once.state, once.events⟩
  else
    (Retry.withRetry key (options.timeout.getD (d.timeouts.forService key)) d.timeouts.graceSeconds
      check).run answer state

def trial (key : ServiceKey) (state : σ) : Trial σ :=
  let start := answer .now state
  let tried := d.tried options answer key start.2
  ⟨key, start.1, tried, answer .now tried.state⟩

/-- Tests of services in turn, up to the first one that breaks down. -/
def trials : List ServiceKey → σ → List (Trial σ)
  | [], _ => []
  | key :: rest, state =>
    let first := d.trial options answer key state
    first :: match first.tried.value with
      | .error _ => []
      | .ok _ => trials rest first.stop.2

/-- What is reported of a test. -/
def reported (t : Trial σ) : Except Retry.Fault ServiceOutcome :=
  t.tried.value.map fun passed =>
    ⟨t.key, passed, options.timeout.getD (d.timeouts.forService t.key), t.elapsed⟩

variable {options} in
theorem tried_of_noRetry (h : options.noRetry = true) (key : ServiceKey) (state : σ) :
    d.tried options answer key state =
      let once := (d.check key.check options.includeCommands).run answer state
      ⟨.ok once.value, once.state, once.events⟩ := if_pos h

variable {d options} in
theorem reported_eq_error {t : Trial σ} {fault : Retry.Fault} (h : t.tried.value = .error fault) :
    d.reported options t = .error fault := by
  rw [reported, h]
  rfl

variable {d options} in
theorem reported_eq_ok {t : Trial σ} {passed : Bool} (h : t.tried.value = .ok passed) :
    d.reported options t = .ok ⟨t.key, passed,
      options.timeout.getD (d.timeouts.forService t.key), t.elapsed⟩ := by
  rw [reported, h]
  rfl

theorem attempts_run (key : ServiceKey) (state : σ) :
    (d.attempts key options).run answer state = d.tried options answer key state := by
  unfold attempts tried
  dsimp only
  split
  · rw [run_then]
    exact congrArg (Outcome.mk _ _) (List.append_nil _)
  · rfl

/-- What follows the attempts. -/
def conclude (key : ServiceKey) (start : Instant) :
    Retry.Verdict → Procedure (Except Retry.Fault ServiceOutcome)
  | .error fault => return .error fault
  | .ok passed => do
    let elapsed := elapsed start (← .request .now)
    if !passed then
      .error s!"FAILURE: {key.name} service test failed"
        [("service", key.name), ("elapsed_secs", elapsed.text)]
    return .ok ⟨key, passed, d.timeoutFor key options, elapsed⟩

theorem testService_eq (key : ServiceKey) :
    d.testService key options = (request .now >>= fun start =>
      d.attempts key options >>= d.conclude options key start) := by
  unfold testService conclude
  rfl

theorem conclude_run (t : Trial σ) (hstop : answer .now t.tried.state = t.stop) :
    let outcome := (d.conclude options t.key t.start t.tried.value).run answer t.tried.state
    outcome.value = d.reported options t ∧ outcome.events = t.ending ∧
      (t.tried.value.isOk → outcome.state = t.stop.2) := by
  obtain ⟨key, start, ⟨verdict, last, events⟩, stop⟩ := t
  obtain rfl : answer .now last = stop := hstop
  cases verdict with
  | error fault => exact ⟨rfl, rfl, nofun⟩
  | ok passed =>
    cases passed with
    | false => exact ⟨rfl, rfl, fun _ => rfl⟩
    | true => exact ⟨rfl, rfl, fun _ => rfl⟩

theorem testService_run (key : ServiceKey) (state : σ) :
    let t := d.trial options answer key state
    let outcome := (d.testService key options).run answer state
    outcome.value = d.reported options t ∧ outcome.events = t.events ∧
      (t.tried.value.isOk → outcome.state = t.stop.2) := by
  intro t outcome
  obtain ⟨hvalue, hevents, hstate⟩ := d.conclude_run options answer t rfl
  have hrun : outcome = _ := congrArg (·.run answer state) (d.testService_eq options key)
  rw [run_request_bind, run_then, attempts_run] at hrun
  rw [hrun]
  refine ⟨hvalue, ?_, hstate⟩
  rw [Trial.events, ← hevents]
  rfl

theorem testServices_run (keys : List ServiceKey) (state : σ) :
    let trials := d.trials options answer keys state
    let outcome := (d.testServices options keys).run answer state
    outcome.value = trials.mapM (d.reported options) ∧
      outcome.events = trials.flatMap (·.events) := by
  induction keys generalizing state with
  | nil => exact ⟨rfl, rfl⟩
  | cons key rest ih =>
    obtain ⟨hvalue, hevents, hstate⟩ := d.testService_run options answer key state
    dsimp only
    rw [testServices, run_then, trials]
    dsimp only
    rw [hvalue, hevents, List.mapM_cons, List.flatMap_cons]
    generalize d.trial options answer key state = first at hstate
    cases hverdict : first.tried.value with
    | error fault =>
      rw [reported_eq_error hverdict]
      exact ⟨rfl, rfl⟩
    | ok passed =>
      rw [hverdict] at hstate
      obtain ⟨hothers, hbehind⟩ := ih first.stop.2
      rw [hstate rfl, reported_eq_ok hverdict]
      dsimp only
      rw [run_then, ← hbehind, ← hothers]
      refine ⟨?_, congrArg (first.events ++ ·) (List.append_nil _)⟩
      change Except.map _ ((d.testServices options rest).run answer first.stop.2).value = _
      cases ((d.testServices options rest).run answer first.stop.2).value with
      | error fault => rfl
      | ok outcomes => rfl

/-- The tests follow the keys. -/
theorem key_trials_prefix (keys : List ServiceKey) (state : σ) :
    (d.trials options answer keys state).map (·.key) <+: keys := by
  induction keys generalizing state with
  | nil => exact List.nil_prefix
  | cons key rest ih =>
    rw [trials, List.map_cons]
    refine List.cons_prefix_cons.2 ⟨rfl, ?_⟩
    cases (d.trial options answer key state).tried.value with
    | error fault => exact List.nil_prefix
    | ok passed => exact ih _

/-- Unless a test breaks down, every service is tested and reported, with the time that it was
given. -/
theorem reported_of_mapM {keys : List ServiceKey} {state : σ} {outcomes : List ServiceOutcome}
    (h : (d.trials options answer keys state).mapM (d.reported options) = .ok outcomes) :
    outcomes.map (·.service) = keys ∧
      (d.trials options answer keys state).map (·.key) = keys ∧
      (d.trials options answer keys state).map (·.tried.value) = outcomes.map (.ok ·.passed) ∧
      ∀ o ∈ outcomes, o.timeout = options.timeout.getD (d.timeouts.forService o.service) := by
  induction keys generalizing state outcomes with
  | nil =>
    cases h
    exact ⟨rfl, rfl, rfl, List.forall_mem_nil _⟩
  | cons key rest ih =>
    rw [trials, List.mapM_cons] at h
    cases hverdict : (d.trial options answer key state).tried.value with
    | error fault =>
      rw [reported_eq_error hverdict] at h
      cases h
    | ok passed =>
      rw [reported_eq_ok hverdict, hverdict] at h
      dsimp only at h
      rcases hothers : (d.trials options answer rest
        (d.trial options answer key state).stop.2).mapM (d.reported options) with fault | others
      · rw [hothers] at h
        cases h
      · rw [hothers] at h
        obtain ⟨hservices, hkeys, hvalues, htimeouts⟩ := ih hothers
        cases h
        rw [trials, hverdict]
        refine ⟨congrArg (key :: ·) hservices, congrArg (key :: ·) hkeys, ?_,
          List.forall_mem_cons.2 ⟨rfl, htimeouts⟩⟩
        rw [List.map_cons, List.map_cons, hverdict]
        exact congrArg (.ok passed :: ·) hvalues

/-- Single attempts do not break down. -/
theorem exists_reported_of_noRetry (hnoRetry : options.noRetry = true) (keys : List ServiceKey)
    (state : σ) :
    ∃ outcomes, (d.trials options answer keys state).mapM (d.reported options) = .ok outcomes := by
  induction keys generalizing state with
  | nil => exact ⟨[], rfl⟩
  | cons key rest ih =>
    have hverdict : (d.trial options answer key state).tried.value = .ok _ :=
      congrArg (·.value) (d.tried_of_noRetry answer hnoRetry key (answer .now state).2)
    obtain ⟨others, hothers⟩ := ih (d.trial options answer key state).stop.2
    rw [trials, List.mapM_cons, reported_eq_ok hverdict, hverdict]
    dsimp only
    rw [hothers]
    exact ⟨_, rfl⟩

theorem exists_trial_of_mem {keys : List ServiceKey} {state : σ} {t : Trial σ}
    (h : t ∈ d.trials options answer keys state) :
    ∃ key begun, t = d.trial options answer key begun := by
  induction keys generalizing state with
  | nil => cases h
  | cons key rest ih =>
    rcases List.mem_cons.1 h with rfl | hrest
    · exact ⟨key, state, rfl⟩
    · cases hverdict : (d.trial options answer key state).tried.value with
      | error fault =>
        rw [hverdict] at hrest
        cases hrest
      | ok passed =>
        rw [hverdict] at hrest
        exact ih hrest

theorem Trial.requests_ending (t : Trial σ) : ∀ r ∈ requests t.ending, r = .now := by
  unfold ending
  cases t.tried.value with
  | error fault => exact List.forall_mem_nil _
  | ok passed =>
    cases passed with
    | false => exact List.forall_mem_singleton.2 rfl
    | true => exact List.forall_mem_singleton.2 rfl

theorem run_eq (runId : String) (keys : List ServiceKey) :
    d.run runId keys options = (request .now >>= fun start =>
      d.testServices options (leaders keys) >>= fun outcomes =>
        pure (outcomes.map (⟨runId, start, ·⟩))) := by
  rw [run, distinctChecks_eq_leaders]

theorem run_trials (runId : String) (keys : List ServiceKey) (state : σ) :
    let start := answer .now state
    let trials := d.trials options answer (leaders keys) start.2
    let outcome := (d.run runId keys options).run answer state
    outcome.value = (trials.mapM (d.reported options)).map (⟨runId, start.1, ·⟩) ∧
      outcome.events = .exchanged .now start.1 :: trials.flatMap (·.events) := by
  intro start trials outcome
  obtain ⟨hvalue, hevents⟩ := d.testServices_run options answer (leaders keys) start.2
  have hrun : outcome = _ := congrArg (·.run answer state) (d.run_eq options runId keys)
  rw [run_request_bind, run_then] at hrun
  rw [hrun, ← hvalue, ← hevents]
  exact ⟨rfl, congrArg (_ :: ·) (List.append_nil _)⟩

/-- Beside the tests, a run only reads the clock. -/
theorem mem_requests_run (runId : String) (keys : List ServiceKey) (state : σ) {r : Request}
    (hr : r ∈ requests ((d.run runId keys options).run answer state).events) :
    r = .now ∨
      ∃ t ∈ d.trials options answer (leaders keys) (answer .now state).2,
        r ∈ requests t.tried.events := by
  rw [(d.run_trials options answer runId keys state).2, Event.requests_exchanged,
    Event.requests_flatMap] at hr
  rcases List.mem_cons.1 hr with rfl | hr
  · exact .inl rfl
  · obtain ⟨t, ht, hr⟩ := List.mem_flatMap.1 hr
    rw [Trial.events, Event.requests_exchanged, Event.requests_append] at hr
    rcases List.mem_cons.1 hr with rfl | hr
    · exact .inl rfl
    · rcases List.mem_append.1 hr with htried | hending
      · exact .inr ⟨t, ht, htried⟩
      · exact .inl (t.requests_ending r hending)

/-- Single attempts leave all pauses to the checks. -/
theorem run_awake (hnoRetry : options.noRetry = true)
    (hchecks : ∀ check, (d.check check options.includeCommands).Asks Request.Awake)
    (runId : String) (keys : List ServiceKey) (state : σ) :
    ∀ r ∈ requests ((d.run runId keys options).run answer state).events, r.Awake := by
  intro r hr
  rcases d.mem_requests_run options answer runId keys state hr with rfl | ⟨t, ht, hr⟩
  · exact nofun
  · obtain ⟨key, begun, rfl⟩ := d.exists_trial_of_mem options answer ht
    have htried : (d.trial options answer key begun).tried = _ :=
      d.tried_of_noRetry answer hnoRetry key (answer .now begun).2
    rw [htried] at hr
    exact Always.run (hchecks key.check) answer _ r hr

/-- What a run reports: one outcome for each leader, in order, with the time that it was given. It
consists of the tests of the leaders. If they are single attempts, there is a report, and only the
checks themselves can pause. -/
theorem run_report (runId : String) (keys : List ServiceKey) (state : σ) :
    let start := answer .now state
    let trials := d.trials options answer (leaders keys) start.2
    let outcome := (d.run runId keys options).run answer state
    outcome.value = (trials.mapM (d.reported options)).map (⟨runId, start.1, ·⟩) ∧
    outcome.events = .exchanged .now start.1 :: trials.flatMap (·.events) ∧
    trials.map (·.key) <+: leaders keys ∧
    (∀ report, outcome.value = .ok report →
      report.outcomes.map (·.service) = leaders keys ∧ trials.map (·.key) = leaders keys ∧
      trials.map (·.tried.value) = report.outcomes.map (.ok ·.passed) ∧
      ∀ o ∈ report.outcomes, o.timeout = options.timeout.getD (d.timeouts.forService o.service)) ∧
    (options.noRetry = true →
      (∃ report, outcome.value = .ok report) ∧
      (∀ seconds, .sleep seconds ∈ requests outcome.events →
        ∃ t ∈ trials, .sleep seconds ∈ requests t.tried.events) ∧
      ((∀ check, (d.check check options.includeCommands).Asks Request.Awake) →
        ∀ r ∈ requests outcome.events, r.Awake)) := by
  intro start trials outcome
  obtain ⟨hvalue, hevents⟩ := d.run_trials options answer runId keys state
  refine ⟨hvalue, hevents, d.key_trials_prefix options answer _ _, fun report h => ?_, fun h => ?_⟩
  · have hreport := hvalue.symm.trans h
    rcases houtcomes : trials.mapM (d.reported options) with fault | outcomes
    · rw [houtcomes] at hreport
      cases hreport
    · rw [houtcomes] at hreport
      cases hreport
      exact d.reported_of_mapM options answer houtcomes
  · obtain ⟨outcomes, houtcomes⟩ :=
      d.exists_reported_of_noRetry options answer h (leaders keys) start.2
    refine ⟨⟨⟨runId, start.1, outcomes⟩, ?_⟩, fun seconds hsleep => ?_, fun hchecks => ?_⟩
    · rw [hvalue, houtcomes]
      rfl
    · exact (d.mem_requests_run options answer runId keys state hsleep).resolve_left nofun
    · exact d.run_awake options answer h hchecks runId keys state

/-- All services, two of which are asked for under two keys and one twice, in a cluster that refuses
everything. -/
theorem run_report_of_refusals :
    let h : Harness := ⟨.default, .octet⟩
    let keys := [.ipxe, .tftp, .gitea, .vcs, .bos, .bos, .cfs, .conman, .crus, .ims]
    let outcome := (h.run "0a1b2c3d" keys { noRetry := true, timeout := some 5 }).run
      (fun r () => (Rehearsal.refusal r, ())) ()
    (∃ report, outcome.value = .ok report ∧
      report.outcomes.map (·.service) = [.ipxe, .gitea, .bos, .cfs, .conman, .crus, .ims] ∧
      ∀ o ∈ report.outcomes, o.timeout = 5) ∧
    ∀ r ∈ requests outcome.events, r.Awake := by
  intro h keys outcome
  obtain ⟨-, -, -, hreported, hsingle⟩ := h.dispatcher.run_report
    { noRetry := true, timeout := some 5 } (fun r () => (Rehearsal.refusal r, ())) "0a1b2c3d" keys
    ()
  obtain ⟨⟨report, hreport⟩, -, hawake⟩ := hsingle rfl
  obtain ⟨hservices, -, -, htimeouts⟩ := hreported report hreport
  exact ⟨⟨report, hreport, hservices, htimeouts⟩, hawake fun check => h.check_awake check false⟩

end Dispatcher

/-- Without repetitions, a run of the checks does not pause. -/
theorem Harness.run_awake (h : Harness) (options : RunOptions) (hnoRetry : options.noRetry = true)
    (runId : String) (keys : List ServiceKey) (answer : (r : Request) → σ → Reply r × σ)
    (state : σ) : ∀ r ∈ requests ((h.run runId keys options).run answer state).events, r.Awake :=
  h.dispatcher.run_awake options answer hnoRetry (fun check => h.check_awake check _) runId keys
    state

end ClusterHealth
