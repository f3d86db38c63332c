import ClusterHealth.Checks.Api
import ClusterHealth.Checks.Pods

/-! Services that keep their data in an etcd cluster of three members. -/
namespace ClusterHealth.Checks

structure EtcdService where
  /-- The beginning of the names of its pods. -/
  stem : String
  minPods : Nat

namespace EtcdService

def members : Nat := 3

def bos : EtcdService := ⟨"cray-bos", 3⟩

def crus : EtcdService := ⟨"cray-crus", 4⟩

def memberStem (s : EtcdService) : String := s!"{s.stem}-etcd-"

def waitStem (s : EtcdService) : String := s!"{s.stem}-wait-for-etcd-"

def isMember (s : EtcdService) (pod : Pod) : Bool := Text.startsWith pod.name s.memberStem

/-- Jobs that wait for the cluster have to be over, all other pods have to run. -/
def allowedPhases (s : EtcdService) (pod : Pod) : List Phase :=
  if isJobName pod.name s.waitStem then [.succeeded] else [.running]

/-- Judges one pod. A member of the cluster has a claim of its own name. -/
def podOk (nspace : String) (s : EtcdService) (pod : Pod) : Procedure Bool :=
  .both (if s.isMember pod then claimBound nspace pod.name else return true)
    (phaseIn pod (s.allowedPhases pod))

def memberCountOk (s : EtcdService) (pods : List Pod) : Procedure Bool :=
  let found := pods.countP s.isMember
  if found = members then return true
  else
    .reject "Unexpected number of etcd pods"
      [("prefix", s.memberStem), ("found", toString found), ("expected", toString members)]

def podsOk (nspace : String) (s : EtcdService) : Procedure Bool := do
  let (pods, counted) ← podsByName nspace s.stem (.atLeast s.minPods)
  let healthy ← .forAll pods (s.podOk nspace)
  let complete ← s.memberCountOk pods
  return counted && healthy && complete

end EtcdService

def bos (nspace : String) : Procedure Bool :=
  .both (EtcdService.bos.podsOk nspace) Api.bos

def crus (nspace : String) : Procedure Bool := EtcdService.crus.podsOk nspace

end ClusterHealth.Checks
