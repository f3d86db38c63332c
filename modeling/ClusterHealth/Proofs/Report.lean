import ClusterHealth.CommandLine.Execution
import ClusterHealth.Proofs.Json.Paths
import ClusterHealth.Proofs.Runs
import ClusterHealth.Rehearsal.Attempts
import Mathlib.Tactic.TFAE

/-! All views of a run agree: its services, its summary, its table, its document and its exit
code. -/
namespace ClusterHealth

/-- Items are taken apart by their flags, and keep their order. -/
inductive Parted {α : Type} : List (α × Bool) → List α → List α → Prop
  | nil : Parted [] [] []
  | yes {item : α} {items : List (α × Bool)} {yes no : List α} (h : Parted items yes no) :
      Parted ((item, true) :: items) (item :: yes) no
  | no {item : α} {items : List (α × Bool)} {yes no : List α} (h : Parted items yes no) :
      Parted ((item, false) :: items) yes (item :: no)

namespace Parted
variable {α : Type} {items : List (α × Bool)} {yes no : List α}

theorem sublist_yes (h : Parted items yes no) : yes.Sublist (items.map Prod.fst) := by
  induction h with
  | nil => exact .slnil
  | yes _ ih => exact ih.cons_cons _
  | no _ ih => exact ih.cons _

theorem sublist_no (h : Parted items yes no) : no.Sublist (items.map Prod.fst) := by
  induction h with
  | nil => exact .slnil
  | yes _ ih => exact ih.cons _
  | no _ ih => exact ih.cons_cons _

theorem length_add (h : Parted items yes no) : yes.length + no.length = items.length := by
  induction h with
  | nil => rfl
  | yes _ ih =>
    simp only [List.length_cons]
    omega
  | no _ ih =>
    simp only [List.length_cons]
    omega

end Parted

namespace Report
open CommandLine (Conclusion)

/-- The services that were checked, in their order. -/
def services (r : Report) : List ServiceKey := r.outcomes.map (·.service)

/-- The summary when these services passed, and no other one was checked. -/
def successLine (keys : List ServiceKey) : String :=
  s!"SUCCESS: All {keys.length} service tests passed: " ++ " ".intercalate (keys.map (·.name))

/-- The summary when just these services failed. -/
def failureLine (keys : List ServiceKey) : String :=
  s!"FAILURE: {keys.length} service test FAILURES (" ++ " ".intercalate (keys.map (·.name)) ++ ")"

variable {r : Report}

/-- The services with whether they passed. -/
def flagged (r : Report) : List (ServiceKey × Bool) := r.outcomes.map fun o => (o.service, o.passed)

theorem map_fst_flagged (r : Report) : r.flagged.map Prod.fst = r.services := by
  rw [flagged, List.map_map]
  rfl

theorem parted (r : Report) : Parted r.flagged r.passed r.failed := by
  unfold flagged passed failed
  induction r.outcomes with
  | nil => exact .nil
  | cons o rest ih =>
    cases ho : o.passed with
    | true => simpa [ho] using ih.yes
    | false => simpa [ho] using ih.no

theorem failed_eq_nil_iff : r.failed = [] ↔ ∀ o ∈ r.outcomes, o.passed = true := by
  simp [failed]

theorem passed_eq_services (h : ∀ o ∈ r.outcomes, o.passed = true) : r.passed = r.services := by
  rw [passed, List.filter_eq_self.2 h, services]

theorem allPassed_iff : r.allPassed = true ↔ ∀ o ∈ r.outcomes, o.passed = true := List.all_eq_true

theorem summary_of_passed (h : ∀ o ∈ r.outcomes, o.passed = true) :
    r.summary = successLine r.services := by
  rw [summary, failed_eq_nil_iff.2 h, passed_eq_services h]
  rfl

theorem summary_of_failed (h : r.failed ≠ []) : r.summary = failureLine r.failed := by
  rw [summary, if_neg (by simpa using h)]
  rfl

theorem startsWith_failureLine (keys : List ServiceKey) :
    Text.startsWith (failureLine keys) "SUCCESS" = false := by
  unfold Text.startsWith failureLine
  simp [toString, List.isPrefixOf]

theorem startsWith_successLine (keys : List ServiceKey) :
    Text.startsWith (successLine keys) "SUCCESS" = true := by
  unfold Text.startsWith successLine
  simp [toString]

theorem field?_toJson_passed (r : Report) :
    r.toJson.field? "passed" = some (.bool r.allPassed) := by
  have hnames : ["run_id", "started_at", "outcomes", "passed"].Nodup := by decide
  exact Json.field?_ofFields hnames (by simp)

theorem label_rows (r : Report) :
    r.table.rows.map (·[1]?) = r.outcomes.map fun o => some (label o.passed) := by
  rw [table, List.map_map]
  rfl

theorem forall_label_ne_iff :
    (∀ row ∈ r.table.rows, row[1]? ≠ some "FAIL") ↔ ∀ o ∈ r.outcomes, o.passed = true := by
  have hlabel (passed : Bool) : some (label passed) ≠ some "FAIL" ↔ passed = true := by
    cases passed <;> decide
  have hrows : (∀ row ∈ r.table.rows, row[1]? ≠ some "FAIL") ↔
      ∀ cell ∈ r.table.rows.map (·[1]?), cell ≠ some "FAIL" := by
    rw [List.forall_mem_map]
  rw [hrows, label_rows, List.forall_mem_map]
  simp only [hlabel]

/-- What a report shows is the same in all views. -/
structure Agrees (r : Report) : Prop where
  parted : Parted r.flagged r.passed r.failed
  passed : r.passed.Sublist r.services
  failed : r.failed.Sublist r.services
  count : r.passed.length + r.failed.length = r.outcomes.length
  same : [∀ o ∈ r.outcomes, o.passed = true, r.failed = [], r.allPassed = true,
    r.toJson.field? "passed" = some (.bool true),
    ∀ text, (Conclusion.shown r.allPassed text).code = 0,
    Text.startsWith r.summary "SUCCESS" = true, r.summary = successLine r.services,
    ∀ row ∈ r.table.rows, row[1]? ≠ some "FAIL"].TFAE
  otherwise : ¬(∀ o ∈ r.outcomes, o.passed = true) → r.summary = failureLine r.failed ∧
    r.toJson.field? "passed" = some (.bool false) ∧
    ∀ text, (Conclusion.shown r.allPassed text).code ≠ 0

theorem code_shown_eq_zero_iff (passed : Bool) (text : String) :
    (Conclusion.shown passed text).code = 0 ↔ passed = true := by
  cases passed <;> simp [Conclusion.shown]

theorem agrees (r : Report) : r.Agrees where
  parted := r.parted
  passed := r.map_fst_flagged ▸ r.parted.sublist_yes
  failed := r.map_fst_flagged ▸ r.parted.sublist_no
  count := by
    rw [r.parted.length_add, flagged, List.length_map]
  same := by
    tfae_have 1 ↔ 2 := failed_eq_nil_iff.symm
    tfae_have 1 ↔ 3 := allPassed_iff.symm
    tfae_have 3 ↔ 4 := by
      rw [field?_toJson_passed]
      simp
    tfae_have 3 ↔ 5 := by
      simp only [code_shown_eq_zero_iff, forall_const]
    tfae_have 1 → 7 := summary_of_passed
    tfae_have 7 → 6 := fun h => h ▸ startsWith_successLine r.services
    tfae_have 6 → 2 := by
      intro h
      by_contra hfailed
      rw [summary_of_failed hfailed, startsWith_failureLine] at h
      cases h
    tfae_have 1 ↔ 8 := forall_label_ne_iff.symm
    tfae_finish
  otherwise h := by
    have hfailed : r.failed ≠ [] := fun hnil => h (failed_eq_nil_iff.1 hnil)
    have hall : r.allPassed = false := by
      rw [← Bool.not_eq_true, allPassed_iff]
      exact h
    refine ⟨summary_of_failed hfailed, ?_, fun text hcode => ?_⟩
    · rw [field?_toJson_passed, hall]
    · rw [code_shown_eq_zero_iff, hall] at hcode
      cases hcode

end Report

namespace CommandLine
variable {σ : Type} (c : Config) (json : Bool) (runId : String) (services : List ServiceKey)
  (options : RunOptions) (answer : (r : Request) → σ → Reply r × σ) (state : σ)

/-- What the services asked for come to, in given surroundings. -/
def checked (harness : Harness) : Except Retry.Fault Report :=
  ((onHost c (harness.run runId services options)).run answer state).value

/-- What a command to check services ends with, in given surroundings. -/
def tested : Conclusion := ((test c json runId services options).run answer state).value

theorem tested_of_refused {e : ConfigurationError} (h : Harness.ofConfig c = .error e) :
    tested c json runId services options answer state =
      .fatal json "Failed to set up service checks" [e.message] := by
  unfold tested test
  rw [h]
  rfl

theorem tested_of_harness {harness : Harness} (h : Harness.ofConfig c = .ok harness) :
    tested c json runId services options answer state =
      match checked c runId services options answer state harness with
      | .error _ => .crashed "the time to stop at is out of range"
      | .ok r => .shown r.allPassed (if json then r.toJson.pretty else r.text) := by
  unfold tested checked test
  rw [h]
  dsimp only
  rw [Procedure.run_then]
  obtain ⟨value, after, events⟩ := (onHost c (harness.run runId services options)).run answer state
  cases value with
  | error fault => rfl
  | ok r => rfl

/-- All views of any report agree. A command to check services shows the report of its run, and ends
with code zero exactly if every service in that passed. If there is no report, because the checks
cannot be set up or a clock runs out of range, it shows nothing and fails. -/
theorem views_agree :
    (∀ r : Report, r.Agrees) ∧
    ∀ c json runId services options {σ : Type} (answer : (r : Request) → σ → Reply r × σ)
      (state : σ),
      let conclusion := tested c json runId services options answer state
      (∀ e, Harness.ofConfig c = .error e → conclusion.code ≠ 0 ∧ conclusion.stdout = "") ∧
      ∀ harness, Harness.ofConfig c = .ok harness →
        match checked c runId services options answer state harness with
        | .error _ => conclusion.code ≠ 0 ∧ conclusion.stdout = ""
        | .ok r =>
          conclusion.stdout = (if json then r.toJson.pretty else r.text) ++ "\n" ∧
            (conclusion.code = 0 ↔ ∀ o ∈ r.outcomes, o.passed = true) := by
  refine ⟨Report.agrees, fun c json runId services options σ answer state => ?_⟩
  constructor
  · intro e he
    rw [tested_of_refused c json runId services options answer state he]
    exact ⟨Nat.one_ne_zero, rfl⟩
  · intro harness hharness
    rw [tested_of_harness c json runId services options answer state hharness]
    cases checked c runId services options answer state harness with
    | error fault => exact ⟨(by decide : Conclusion.crashCode ≠ 0), rfl⟩
    | ok r =>
      dsimp only
      rw [Report.code_shown_eq_zero_iff, Report.allPassed_iff]
      exact ⟨rfl, Iff.rfl⟩

/-- A report on three services, two of which failed. -/
def mixedReport : Report :=
  ⟨"deadbeef", ⟨0⟩,
    [⟨.tftp, false, 300, default⟩, ⟨.bos, true, 300, default⟩, ⟨.ims, false, 60, default⟩]⟩

/-- A host whose cluster has a console manager, with a claim in the given phase. -/
def consoleHost (phase : String) : (r : Request) → Reply r
  | .launch _ ("get" :: "pods" :: _) =>
    let pods := "\x7b\"items\":[\x7b\"metadata\":\x7b\"name\":\"cray-conman-0\"\x7d,\"status\":" ++
      "\x7b\"phase\":\"Running\"\x7d\x7d]\x7d"
    .ok ⟨.code 0, pods.toUTF8.toList, []⟩
  | .launch _ ("get" :: "pvc" :: _) =>
    .ok ⟨.code 0, ("\x7b\"status\":\x7b\"phase\":\"" ++ phase ++ "\"\x7d\x7d").toUTF8.toList, []⟩
  | r => Rehearsal.refusal r

/-- A report names the two services of three that failed. A command to check the console manager
ends with code zero if its claim is bound, and with another one if not. -/
theorem views_agree_on_console_manager :
    (mixedReport.summary = "FAILURE: 2 service test FAILURES (tftp ims)" ∧
      ∀ text, (Conclusion.shown mixedReport.allPassed text).code ≠ 0) ∧
    let conclusion (phase : String) := tested .default false "deadbeef" [.conman]
      { noRetry := true } (fun r state => (consoleHost phase r, state)) ()
    (conclusion "Bound").code = 0 ∧ (conclusion "Pending").code ≠ 0 := by
  have hfailed : ¬∀ o ∈ mixedReport.outcomes, o.passed = true := by decide
  obtain ⟨hsummary, -, hcode⟩ := (views_agree.1 mixedReport).otherwise hfailed
  refine ⟨⟨hsummary.trans (by decide +kernel), hcode⟩, ?_⟩
  intro conclusion
  have hflags (phase : String) (flags : List Bool)
      (h : (checked .default "deadbeef" [.conman] { noRetry := true }
        (fun r state => (consoleHost phase r, state)) () ⟨.default, .octet⟩).toOption.map
          (fun r => r.outcomes.map (·.passed)) = some flags) :
      (conclusion phase).code = 0 ↔ ∀ flag ∈ flags, flag = true := by
    have hshown := (views_agree.2 .default false "deadbeef" [.conman] { noRetry := true }
      (fun r state => (consoleHost phase r, state)) ()).2 ⟨.default, .octet⟩ rfl
    split at hshown
    · rename_i hfault
      rw [hfault] at h
      cases h
    · rename_i r hr
      rw [hr] at h
      obtain rfl : r.outcomes.map (·.passed) = flags := Option.some.inj h
      rw [List.forall_mem_map]
      exact hshown.2
  exact ⟨(hflags "Bound" [true] (by decide +kernel)).2 (by decide),
    mt (hflags "Pending" [false] (by decide +kernel)).1 (by decide)⟩

end CommandLine
end ClusterHealth
