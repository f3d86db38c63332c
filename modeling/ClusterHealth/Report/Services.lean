import ClusterHealth.Config.Basic
import ClusterHealth.Json.Printer
import ClusterHealth.Report.Table

/-! The list of services that can be checked, with the time that is spent on each. -/
namespace ClusterHealth

structure ServiceEntry where
  service : ServiceKey
  timeout : Nat

namespace ServiceEntry

def all (timeouts : Config.Timeouts) : List ServiceEntry :=
  ServiceKey.all.map fun key => ⟨key, timeouts.forService key⟩

def row (e : ServiceEntry) : List String :=
  [e.service.name, e.service.check.title, toString e.timeout]

def table (entries : List ServiceEntry) : Table where
  header := ["Service", "Check", "Timeout (s)"]
  rows := entries.map row

def toJson (e : ServiceEntry) : Json := .ofFields [
  ("service", .string e.service.name),
  ("check", .string e.service.check.title),
  ("timeout_secs", .ofNat e.timeout)]

def listJson (entries : List ServiceEntry) : Json :=
  .ofFields [("services", .array (entries.map toJson))]

end ServiceEntry
end ClusterHealth
