/-! Pods as far as checks look at them. -/
namespace ClusterHealth

inductive Phase where
  | pending
  | running
  | succeeded
  | failed
  | unknown (text : String)
  deriving DecidableEq

def Phase.parse : String → Phase
  | "Pending" => .pending
  | "Running" => .running
  | "Succeeded" => .succeeded
  | "Failed" => .failed
  | text => .unknown text

def Phase.text : Phase → String
  | .pending => "Pending"
  | .running => "Running"
  | .succeeded => "Succeeded"
  | .failed => "Failed"
  | .unknown text => text

@[simp] theorem Phase.text_parse (text : String) : (Phase.parse text).text = text := by
  unfold parse; split <;> rfl

/-- A declared container with the values its variables are set to, empty where a value comes from
elsewhere. -/
structure Container where
  name : String
  env : List (String × String)
  deriving DecidableEq

structure Pod where
  name : String
  phase : Phase
  /-- Containers that wait, each with the reason. -/
  waiting : List (String × String) := []
  containers : List Container := []
  deriving DecidableEq

/-- How many pods are acceptable. -/
structure PodCount where
  min : Nat
  max : Option Nat
  deriving DecidableEq

namespace PodCount

def exactly (n : Nat) : PodCount := ⟨n, some n⟩

def atLeast (n : Nat) : PodCount := ⟨n, none⟩

def admits (count : PodCount) (found : Nat) : Bool :=
  count.min ≤ found && count.max.all (found ≤ ·)

end PodCount
end ClusterHealth
