import ClusterHealth.Decimal.Text
import ClusterHealth.Instant
import ClusterHealth.Json.Printer
import ClusterHealth.Report.Table
import ClusterHealth.Service

/-! What a run comes to, as values, as a table with a summary and as a document. -/
namespace ClusterHealth
open Decimal (Binary64)

/-- What the check of one service comes to, with all its attempts. -/
structure ServiceOutcome where
  service : ServiceKey
  passed : Bool
  timeout : Nat
  elapsed : Binary64
  deriving DecidableEq

/-- Outcomes in the order that services were asked for. -/
structure Report where
  runId : String
  startedAt : Instant
  outcomes : List ServiceOutcome

namespace Report

def allPassed (r : Report) : Bool := r.outcomes.all (·.passed)

def passed (r : Report) : List ServiceKey := (r.outcomes.filter (·.passed)).map (·.service)

def failed (r : Report) : List ServiceKey := (r.outcomes.filter (!·.passed)).map (·.service)

def summary (r : Report) : String :=
  if r.failed.isEmpty then
    s!"SUCCESS: All {r.passed.length} service tests passed: {ServiceKey.names r.passed}"
  else
    s!"FAILURE: {r.failed.length} service test FAILURES ({ServiceKey.names r.failed})"

def label (passed : Bool) : String := if passed then "PASS" else "FAIL"

def row (o : ServiceOutcome) : List String :=
  [o.service.name, label o.passed, toString o.timeout, o.elapsed.fixed 1]

def table (r : Report) : Table where
  header := ["Service", "Result", "Timeout (s)", "Elapsed (s)"]
  rows := r.outcomes.map row

def text (r : Report) : String := s!"Run {r.runId}\n{r.table.text}\n{r.summary}"

def outcomeJson (o : ServiceOutcome) : Json := .ofFields [
  ("service", .string o.service.name),
  ("passed", .bool o.passed),
  ("timeout_secs", .ofNat o.timeout),
  ("elapsed_secs", .ofBinary64 o.elapsed)]

def toJson (r : Report) : Json := .ofFields [
  ("run_id", .string r.runId),
  ("started_at", .string r.startedAt.text),
  ("outcomes", .array (r.outcomes.map outcomeJson)),
  ("passed", .bool r.allPassed)]

end Report
end ClusterHealth
