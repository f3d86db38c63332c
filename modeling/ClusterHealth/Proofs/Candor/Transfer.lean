import ClusterHealth.Proofs.Candor
import ClusterHealth.Transfer.Verify

/-! Verified transfers log an error exactly if they fail, apart from an address that the service
lacks: it is logged as an error, and the transfers from the other one decide. -/
namespace ClusterHealth.Transfer
open Procedure

/-- Says that a service has no cluster address, or no external one. -/
def LacksAddress (nspace : String) (entry : Log.Entry) : Prop :=
  (entry.message = "Unable to determine cluster IP" ∨
    entry.message = "Unable to determine external IP") ∧
  ∃ service, entry.fields = [("service", service), ("namespace", nspace)]

variable {tolerated : Log.Entry → Prop}

theorem readDigest_candid (command : String) (target : Target) (path : String) :
    (readDigest command target path).Candid tolerated Except.isOk := by
  refine accounts_request_bind fun reply => ?_
  cases reply with
  | error e => exact accounts_fail Bool.false_ne_true
  | ok output =>
    dsimp only
    split
    · exact accounts_fail Bool.false_ne_true
    · exact accounts_pure (fun _ => trivial) Bool.noConfusion

theorem reportExtraPorts_candid (fields : Int → List (String × String)) (ports : List Int) :
    (ports.forM fun port =>
      if 0 < port then warn "Extra port" (fields port)
      else error "Invalid extra port" (fields port)).Candid tolerated
        fun _ => (ports.filter (· ≤ 0)).isEmpty := by
  induction ports with
  | nil => exact accounts_pure (fun _ => trivial) Bool.noConfusion
  | cons port rest ih =>
    change ((if 0 < port then warn "Extra port" (fields port)
      else error "Invalid extra port" (fields port)) >>= fun _ => _).Accounts ..
    by_cases hport : 0 < port
    · have hfilter : (port :: rest).filter (· ≤ 0) = rest.filter (· ≤ 0) := by
        simp [hport]
      rw [if_pos hport, hfilter]
      exact accounts_warn_bind ih
    · have hfilter : ((port :: rest).filter (· ≤ 0)).isEmpty = false := by
        simp [Int.not_lt.1 hport]
      rw [if_neg hport, hfilter]
      exact (alarms_error ..).bind fun _ => ih.always.mono fun _ _ _ => Bool.false_ne_true

theorem reportEndpoint_candid (nspace service : String) (endpoint : Endpoint) :
    (reportEndpoint nspace service endpoint).Candid (LacksAddress nspace)
      fun _ => endpoint.invalidExtraPorts.isEmpty := by
  unfold reportEndpoint
  dsimp only
  refine Tolerable.when (fun _ => tolerable_error ⟨.inl rfl, service, rfl⟩) ?_
  refine Tolerable.when (fun _ => tolerable_error ⟨.inr rfl, service, rfl⟩) ?_
  exact accounts_warn_when (reportExtraPorts_candid _ endpoint.extraPorts)

/-- A service that is found has no invalid extra port. -/
def sound : Except LookupError Endpoint → Bool
  | .ok endpoint => endpoint.invalidExtraPorts.isEmpty
  | .error _ => false

theorem lookUp_candid (nspace service : String) :
    (lookUp nspace service).Candid (LacksAddress nspace) sound := by
  refine accounts_request_bind fun reply => ?_
  cases reply with
  | error e => exact accounts_fail Bool.false_ne_true
  | ok endpoint =>
    dsimp only
    split
    · exact accounts_fail Bool.false_ne_true
    · exact (reportEndpoint_candid ..).bind fun _ => accounts_pure (⟨trivial, ·⟩) .inr

namespace Verifier
variable (v : Verifier) (session : Session) (remote : String) (artifact : Artifact)

/-- The attempt does not show that the artifact was received wrong. -/
def Fine : Except ProbeError Finding → Prop
  | .ok (.settled equal) => equal = true
  | .ok (.changed _) => True
  | .error _ => False

/-- The attempt shows that the artifact was received wrong. -/
def Wrong : Except ProbeError Finding → Prop
  | .ok (.settled equal) => equal = false
  | .ok (.changed _) | .error _ => False

theorem fetch_tolerable (name file : String) :
    (v.fetch session remote name file).Tolerable tolerated := by
  refine accounts_request_bind fun reply => ?_
  cases reply with
  | error e => exact tolerable_pure _
  | ok delivery =>
    refine accounts_request_bind fun done => ?_
    dsimp only
    split
    · exact tolerable_pure _
    · split
      · exact tolerable_pure _
      · exact tolerable_pure _

theorem compare_accounts (file : String) (digest : Digest) :
    (v.compare remote file digest).Accounts tolerated True False (· = .ok true)
      (· = .ok false) := by
  refine (readDigest_candid ..).bind fun received => ?_
  cases received with
  | error e => exact accounts_pure nofun nofun
  | ok received =>
    dsimp only
    split
    · exact accounts_pure (fun _ => ⟨trivial, rfl⟩) nofun
    · exact accounts_fail nofun

theorem transfer_accounts (before : Digest) (file : String) :
    (v.transfer session remote artifact before file).Accounts tolerated True False Fine Wrong := by
  refine (v.fetch_tolerable ..).bind fun fetched => ?_
  cases fetched with
  | error e => exact accounts_pure False.elim False.elim
  | ok size =>
    refine (readDigest_candid ..).bind fun digest => ?_
    cases digest with
    | error e => exact accounts_pure False.elim False.elim
    | ok after =>
      dsimp only
      split
      · refine Accounts.bind (v.compare_accounts ..).frame fun compared => ?_
        cases compared with
        | error e => exact accounts_pure False.elim False.elim
        | ok equal =>
          exact accounts_pure (fun h => ⟨⟨trivial, rfl⟩, congrArg _ h⟩)
            fun h => .inr (congrArg _ h)
      · exact accounts_pure (fun _ => ⟨trivial, rfl⟩) False.elim

theorem attempt_accounts (before : Digest) :
    (v.attempt session remote artifact before).Accounts tolerated True False Fine Wrong := by
  have hcreate : (v.createScratch artifact.name).Tolerable tolerated :=
    accounts_request_bind fun made => by cases made <;> exact tolerable_pure _
  refine hcreate.bind fun created => ?_
  cases created with
  | error e => exact accounts_pure False.elim False.elim
  | ok file =>
    refine (v.transfer_accounts session remote artifact before file).bind fun finding => ?_
    exact accounts_request_bind fun _ => accounts_pure id id

theorem settle_accounts (redos : Nat) (before : Digest) :
    (v.settle session remote artifact redos before).Accounts tolerated True False (· = .ok true)
      (· = .ok false) := by
  induction redos generalizing before with
  | zero =>
    rw [settle]
    refine (v.attempt_accounts session remote artifact before).bind fun finding => ?_
    rcases finding with e | equal | after
    · exact accounts_pure nofun nofun
    · exact accounts_pure (fun h => Except.ok.inj h) fun h => Except.ok.inj h
    · exact accounts_pure nofun nofun
  | succ redos ih =>
    rw [settle]
    refine (v.attempt_accounts session remote artifact before).bind fun finding => ?_
    rcases finding with e | equal | after
    · exact accounts_pure nofun nofun
    · exact accounts_pure (fun h => Except.ok.inj h) fun h => Except.ok.inj h
    · exact accounts_warn_bind (ih after)

theorem verifyEndpoint_candid : (v.verifyEndpoint remote artifact).Candid tolerated id := by
  have hcompare : (v.transferAndCompare remote artifact).Accounts tolerated True False
      (· = .ok true) (· = .ok false) := by
    refine accounts_request_bind fun connection => ?_
    cases connection with
    | error e => exact accounts_pure nofun nofun
    | ok session =>
      refine (readDigest_candid ..).bind fun digest => ?_
      cases digest with
      | error e => exact accounts_pure nofun nofun
      | ok before =>
        exact (v.settle_accounts session remote artifact v.maxRedos before).frame.mono
          (fun _ h => ⟨⟨trivial, rfl⟩, h⟩) fun _ => .inr
  refine hcompare.bind fun result => ?_
  cases result with
  | ok equal => exact accounts_pure (congrArg _) (congrArg _)
  | error e => exact accounts_reject ..

theorem verifyService_candid (service : String) :
    (v.verifyService service artifact).Candid (LacksAddress v.nspace) id := by
  refine (lookUp_candid ..).bind fun found => ?_
  cases found with
  | error e => exact accounts_false (.inr rfl)
  | ok endpoint =>
    dsimp only
    split
    · exact accounts_reject ..
    · refine (candid_forAll fun target _ => v.verifyEndpoint_candid target.2 artifact).bind ?_
      intro transfers
      exact accounts_pure (by grind [sound]) (by grind [sound])

end Verifier
end ClusterHealth.Transfer
