import ClusterHealth.Proofs.Requests
import ClusterHealth.Proofs.Runs
import ClusterHealth.Proofs.Transfer.Course
import ClusterHealth.Rehearsal.Attempts

/-! From which addresses of a service an artifact is transferred, and what that says about the
service: without a valid port and an address there is no transfer, and the service fails. -/
namespace ClusterHealth

namespace Endpoint

/-- Addresses that are there and not empty, that in the cluster first. -/
def addresses (e : Endpoint) : List String :=
  (e.clusterAddress.toList ++ e.externalAddress.toList).filter (· ≠ "")

theorem toList_usable (address : Option String) :
    (usable address).toList = address.toList.filter (· ≠ "") := by
  cases address with
  | none => rfl
  | some text =>
    by_cases htext : text = ""
    · subst htext
      rfl
    · simp [usable, Option.filter, htext]

theorem remotes_targets (e : Endpoint) :
    e.targets.map Prod.snd = e.addresses.map fun address => address ++ ":" ++ toString e.port := by
  change _ = e.addresses.map e.remote
  unfold addresses targets
  rw [List.filter_append, ← toList_usable, ← toList_usable, List.map_append, List.map_append]
  congr 1
  · change (e.cluster?.map _).toList.map _ = e.cluster?.toList.map _
    cases e.cluster? with
    | none => rfl
    | some address => rfl
  · change (e.external?.map _).toList.map _ = e.external?.toList.map _
    cases e.external? with
    | none => rfl
    | some address => rfl

theorem coverage_eq_nothing_iff {e : Endpoint} (hport : 0 < e.port) :
    e.coverage = .nothing ↔ e.addresses = [] := by
  have haddresses : e.addresses = e.cluster?.toList ++ e.external?.toList := by
    rw [addresses, List.filter_append, ← toList_usable, ← toList_usable]
    rfl
  have hvalid : ¬e.port ≤ 0 := by omega
  rw [haddresses, coverage]
  cases e.cluster? with
  | none =>
    cases e.external? with
    | none => simp
    | some address => simp [hvalid]
  | some address =>
    simp only [hvalid, decide_false, Option.isNone_some, Bool.false_and, Bool.or_false,
      Bool.false_eq_true, if_false]
    split
    · simp
    · simp

theorem invalidExtraPorts_isEmpty (e : Endpoint) :
    e.invalidExtraPorts.isEmpty = true ↔ ∀ port ∈ e.extraPorts, 0 < port := by
  simp [invalidExtraPorts]

end Endpoint

/-- The address that is connected to. -/
def Request.connect? : Request → Option String
  | .connect remote => some remote
  | _ => none

/-- What a transfer takes once there is a connection. -/
def Request.Transfers : Request → Prop
  | .exec .. | .createFile .. | .receive .. | .writeFile .. | .removeFile .. => True
  | _ => False

/-- The addresses that are connected to, in turn. -/
def Event.connects (events : List Event) : List String := (requests events).filterMap (·.connect?)

@[simp] theorem Event.connects_append (first second : List Event) :
    connects (first ++ second) = connects first ++ connects second := by
  simp [connects]

@[simp] theorem Event.connects_map_logged (entries : List Log.Entry) :
    connects (entries.map .logged) = [] := by
  simp [connects]

namespace Transfer
open Procedure
open Event (requests connects)

namespace Verifier
variable {v : Verifier} {session : Session} {remote : String} {artifact : Artifact}
  {before : Digest} {events : List Event}

theorem Transferred.transfers {file : String} {result : Except ProbeError Finding}
    (h : v.Transferred session remote artifact before file events result) :
    ∀ r ∈ requests events, r.Transfers := by
  cases h with
  | _ => simp [arrival, received, written, probed, digested, Request.Transfers]

theorem Attempted.transfers {result : Except ProbeError Finding}
    (h : v.Attempted session remote artifact before events result) :
    ∀ r ∈ requests events, r.Transfers := by
  cases h with
  | fileless => exact List.forall_mem_singleton.2 trivial
  | filed tag h =>
    rw [Event.requests_append]
    refine List.forall_mem_append.2 ⟨?_, List.forall_mem_singleton.2 trivial⟩
    exact List.forall_mem_cons.2 ⟨trivial, h.transfers⟩

theorem Settled.transfers {redos : Nat} {result : Except ProbeError Bool}
    (h : v.Settled session remote artifact redos before events result) :
    ∀ r ∈ requests events, r.Transfers := by
  induction h with
  | failed e h => exact h.transfers
  | ended equal h => exact h.transfers
  | exhausted after h => exact h.transfers
  | redone after h hrest ih =>
    rw [Event.requests_append]
    exact List.forall_mem_append.2 ⟨h.transfers, ih⟩

/-- However an artifact is verified, there is one connection, and it comes first. -/
theorem Verified.requests_eq {value : Bool} (h : v.Verified remote artifact events value) :
    ∃ rest, requests events = .connect remote :: rest ∧ ∀ r ∈ rest, r.Transfers := by
  cases h with
  | unconnected e => exact ⟨[], rfl, List.forall_mem_nil _⟩
  | unprobed session reply entry e h => exact ⟨[_], rfl, List.forall_mem_singleton.2 trivial⟩
  | judged session before equal h =>
    exact ⟨_, rfl, List.forall_mem_cons.2 ⟨trivial, h.transfers⟩⟩
  | rejected session before e h =>
    rw [Event.requests_append]
    exact ⟨_, List.append_nil _, List.forall_mem_cons.2 ⟨trivial, h.transfers⟩⟩

theorem Verified.connects_eq {value : Bool} (h : v.Verified remote artifact events value) :
    connects events = [remote] := by
  obtain ⟨rest, hrequests, hrest⟩ := h.requests_eq
  have hnone : rest.filterMap (·.connect?) = [] := by
    refine List.filterMap_eq_nil_iff.2 fun r hr => ?_
    have htransfers := hrest r hr
    cases r with
    | connect address => exact htransfers.elim
    | _ => rfl
  rw [Event.connects, hrequests]
  exact congrArg (remote :: ·) hnone

end Verifier

/-- What a lookup is answered; a first port that cannot be used is a failure. -/
def found (service : String) : Except LookupError Endpoint → Except LookupError Endpoint
  | .error e => .error e
  | .ok endpoint =>
    if endpoint.port ≤ 0 then .error (.invalidPort service endpoint.port) else .ok endpoint

theorem lookUp_run (nspace service : String) (answer : (r : Request) → σ → Reply r × σ)
    (state : σ) :
    let asked := answer (.findService nspace service) state
    ∃ entries : List Log.Entry, (lookUp nspace service).run answer state =
      ⟨found service asked.1, asked.2,
        .exchanged (.findService nspace service) asked.1 :: entries.map .logged⟩ := by
  dsimp only
  unfold lookUp
  rw [run_request_bind]
  generalize answer (.findService nspace service) state = asked
  obtain ⟨reply, after⟩ := asked
  cases reply with
  | error e => exact ⟨[_], rfl⟩
  | ok endpoint =>
    dsimp only
    by_cases hport : endpoint.port ≤ 0
    · simp only [found, if_pos hport]
      exact ⟨[_], rfl⟩
    · have hreport := reportEndpoint_onlyLogs nspace service endpoint
      obtain ⟨entries, hentries⟩ := hreport.run answer after
      simp only [found, if_neg hport]
      rw [run_then]
      dsimp only
      rw [hreport.state_run, hentries]
      exact ⟨entries, congrArg (Outcome.mk _ _ <| _ :: ·) (List.append_nil _)⟩

/-- What an artifact is transferred from, by what the lookup of the service is answered. -/
def remotes : Except LookupError Endpoint → List String
  | .error _ => []
  | .ok endpoint =>
    if 0 < endpoint.port then
      endpoint.addresses.map fun address => address ++ ":" ++ toString endpoint.port
    else []

/-- A service that can serve: it has an address, and each of its ports is valid. -/
def Serves (endpoint : Endpoint) : Prop :=
  0 < endpoint.port ∧ endpoint.addresses ≠ [] ∧ ∀ port ∈ endpoint.extraPorts, 0 < port

namespace Verifier
variable (v : Verifier)

/-- What follows the lookup of a service. -/
def afterLookup (service : String) (artifact : Artifact) :
    Except LookupError Endpoint → Procedure Bool
  | .error _ => return false
  | .ok endpoint =>
    if endpoint.coverage = .nothing then
      .reject "Cannot run file transfer test without valid IP address" [("service", service)]
    else do
      let transfers ← .forAll endpoint.targets fun (_, remote) =>
        v.verifyEndpoint remote artifact
      return transfers && endpoint.invalidExtraPorts.isEmpty

theorem verifyService_eq (service : String) (artifact : Artifact) :
    v.verifyService service artifact = lookUp v.nspace service >>= v.afterLookup service artifact :=
  rfl

/-- Transfers from each of the addresses, each from the state that the one before leaves. -/
def transfers (artifact : Artifact) (answer : (r : Request) → σ → Reply r × σ)
    (reply : Except LookupError Endpoint) (state : σ) : List (Outcome σ Bool) :=
  runsInTurn answer ((remotes reply).map fun remote => v.verifyEndpoint remote artifact) state

theorem connects_transfers (artifact : Artifact) (answer : (r : Request) → σ → Reply r × σ)
    (reply : Except LookupError Endpoint) (state : σ) :
    connects ((v.transfers artifact answer reply state).flatMap (·.events)) = remotes reply := by
  unfold transfers
  induction remotes reply generalizing state with
  | nil => rfl
  | cons remote rest ih =>
    have hfirst := ((v.verifyEndpoint_always remote artifact).run answer state).connects_eq
    rw [List.map_cons, runsInTurn, List.flatMap_cons, Event.connects_append, hfirst, ih]
    rfl

theorem targets_run (artifact : Artifact) (answer : (r : Request) → σ → Reply r × σ)
    {endpoint : Endpoint} (hport : 0 < endpoint.port) (state : σ) :
    let outcome := (forAll endpoint.targets fun (_, remote) =>
      v.verifyEndpoint remote artifact).run answer state
    let transfers := v.transfers artifact answer (.ok endpoint) state
    outcome.events = transfers.flatMap (·.events) ∧ outcome.value = transfers.all (·.value) := by
  have hremotes : remotes (.ok endpoint) = endpoint.targets.map Prod.snd := by
    rw [remotes, if_pos hport, Endpoint.remotes_targets]
  unfold transfers
  rw [hremotes, List.map_map]
  exact run_forAll answer endpoint.targets (fun target => v.verifyEndpoint target.2 artifact) state

theorem afterLookup_run (service : String) (artifact : Artifact)
    (answer : (r : Request) → σ → Reply r × σ) (reply : Except LookupError Endpoint) (state : σ) :
    let transfers := v.transfers artifact answer reply state
    let outcome := (v.afterLookup service artifact (found service reply)).run answer state
    (outcome.value = true ↔
      (∃ endpoint, reply = .ok endpoint ∧ Serves endpoint) ∧
        ∀ transfer ∈ transfers, transfer.value = true) ∧
    ∃ entries : List Log.Entry,
      outcome.events = entries.map .logged ++ transfers.flatMap (·.events) := by
  cases reply with
  | error e => exact ⟨⟨nofun, nofun⟩, [], rfl⟩
  | ok endpoint =>
    have hfails {others : Prop} (h : ¬Serves endpoint) : false = true ↔
        (∃ e, (.ok endpoint : Except LookupError Endpoint) = .ok e ∧ Serves e) ∧ others := by
      simp [h]
    by_cases hport : 0 < endpoint.port
    · have hfound : found service (.ok endpoint) = .ok endpoint := if_neg (by omega)
      rw [hfound, afterLookup]
      by_cases haddresses : endpoint.addresses = []
      · rw [if_pos ((Endpoint.coverage_eq_nothing_iff hport).2 haddresses)]
        have hnone : v.transfers artifact answer (.ok endpoint) state = [] := by
          rw [transfers, remotes, if_pos hport, haddresses]
          rfl
        rw [hnone]
        exact ⟨hfails fun h => h.2.1 haddresses, [_], rfl⟩
      · rw [if_neg (mt (Endpoint.coverage_eq_nothing_iff hport).1 haddresses)]
        obtain ⟨hevents, hvalue⟩ := v.targets_run artifact answer hport state
        rw [run_then]
        refine ⟨?_, [], (List.append_nil _).trans hevents⟩
        change (_ && endpoint.invalidExtraPorts.isEmpty) = true ↔ _
        rw [hvalue, Bool.and_eq_true, List.all_eq_true, endpoint.invalidExtraPorts_isEmpty]
        simp [Serves, hport, haddresses, and_comm]
    · have hfound : found service (.ok endpoint) = .error (.invalidPort service endpoint.port) :=
        if_pos (by omega)
      have hnone : v.transfers artifact answer (.ok endpoint) state = [] := by
        rw [transfers, remotes, if_neg hport]
        rfl
      rw [hfound, hnone]
      exact ⟨hfails fun h => hport h.1, [], rfl⟩

theorem verifyService_run (service : String) (artifact : Artifact)
    (answer : (r : Request) → σ → Reply r × σ) (state : σ) :
    let asked := answer (.findService v.nspace service) state
    let rest := (v.afterLookup service artifact (found service asked.1)).run answer asked.2
    ∃ noted : List Log.Entry, (v.verifyService service artifact).run answer state =
      ⟨rest.value, rest.state, .exchanged (.findService v.nspace service) asked.1 ::
        (noted.map .logged ++ rest.events)⟩ := by
  intro asked rest
  obtain ⟨noted, hlookUp⟩ := lookUp_run v.nspace service answer state
  rw [v.verifyService_eq, run_then, hlookUp]
  exact ⟨noted, rfl⟩

section verifyService
variable (service : String) (artifact : Artifact) (answer : (r : Request) → σ → Reply r × σ)
  (state : σ)

theorem verifyService_value_iff :
    let asked := answer (.findService v.nspace service) state
    ((v.verifyService service artifact).run answer state).value = true ↔
      (∃ endpoint, asked.1 = .ok endpoint ∧ Serves endpoint) ∧
        ∀ transfer ∈ v.transfers artifact answer asked.1 asked.2, transfer.value = true := by
  intro asked
  obtain ⟨noted, hrun⟩ := v.verifyService_run service artifact answer state
  rw [hrun]
  exact (v.afterLookup_run service artifact answer asked.1 asked.2).1

theorem verifyService_events :
    let asked := answer (.findService v.nspace service) state
    ∃ entries : List Log.Entry, ((v.verifyService service artifact).run answer state).events =
      .exchanged (.findService v.nspace service) asked.1 :: (entries.map .logged ++
        (v.transfers artifact answer asked.1 asked.2).flatMap (·.events)) := by
  intro asked
  obtain ⟨noted, hrun⟩ := v.verifyService_run service artifact answer state
  obtain ⟨-, entries, hentries⟩ := v.afterLookup_run service artifact answer asked.1 asked.2
  refine ⟨noted ++ entries, ?_⟩
  rw [hrun, List.map_append, List.append_assoc, ← hentries]

theorem connects_verifyService :
    connects ((v.verifyService service artifact).run answer state).events =
      remotes (answer (.findService v.nspace service) state).1 := by
  obtain ⟨entries, hevents⟩ := v.verifyService_events service artifact answer state
  rw [hevents]
  change connects (entries.map .logged ++ List.flatMap _ _) = _
  rw [Event.connects_append, Event.connects_map_logged, List.nil_append]
  exact v.connects_transfers ..

end verifyService

/-- A service passes exactly if it can serve and every transfer passes. There is one transfer from
each of its addresses, whatever the others and the extra ports are like. -/
theorem verifyService_verdict (service : String) (artifact : Artifact)
    (answer : (r : Request) → σ → Reply r × σ) (state : σ) :
    let asked := answer (.findService v.nspace service) state
    let transfers := v.transfers artifact answer asked.1 asked.2
    let outcome := (v.verifyService service artifact).run answer state
    (outcome.value = true ↔
      (∃ endpoint, asked.1 = .ok endpoint ∧ Serves endpoint) ∧
        ∀ transfer ∈ transfers, transfer.value = true) ∧
    (∃ entries : List Log.Entry, outcome.events =
      .exchanged (.findService v.nspace service) asked.1 ::
        (entries.map .logged ++ transfers.flatMap (·.events))) ∧
    connects outcome.events = remotes asked.1 := by
  intro asked transfers outcome
  exact ⟨v.verifyService_value_iff service artifact answer state,
    v.verifyService_events service artifact answer state,
    v.connects_verifyService service artifact answer state⟩

/-- Surroundings that do not change, in which a server delivers an artifact as it is. -/
structure Serving (b : (r : Request) → Reply r) (remote : String) (artifact : Artifact)
    (session : Session) (tag : String) (d : Digest) (delivery : Delivery) : Prop where
  connected : b (.connect remote) = .ok session
  probed : b (.exec artifact.source v.digestCommand [artifact.path]) = .ok (d.line artifact.path)
  created : b (.createFile v.scratchDir scratchLead (scratchTail artifact.name)) = some tag
  received : b (.receive session artifact.name v.mode) = .ok delivery
  whole : delivery.interruption = none
  written : b (.writeFile (v.scratch artifact tag) delivery.landed) = .ok ()
  digested : b (.exec .host v.digestCommand [v.scratch artifact tag]) =
    .ok (d.line (v.scratch artifact tag))

variable {v} in
theorem Serving.verifyEndpoint_run {b : (r : Request) → Reply r} {remote : String}
    {artifact : Artifact} {session : Session} {tag : String} {d : Digest} {delivery : Delivery}
    (h : v.Serving b remote artifact session tag d delivery) (state : σ) :
    ((v.verifyEndpoint remote artifact).run (fun r s => (b r, s)) state).value = true := by
  have hdigested := h.digested
  have hwritten := h.written
  unfold scratch at hdigested hwritten
  have hattempt : ((v.attempt session remote artifact d).run (fun r s => (b r, s)) state).value =
      .ok (.settled true) := by
    simp [attempt, createScratch, transfer, fetch, compare, readDigest, Digest.ofOutput_line,
      Except.map, Procedure.run, Procedure.bind, Procedure.request, Bind.bind, Pure.pure, h.probed,
      h.created, h.received, h.whole, hwritten, hdigested]
  have hsettled (redos : Nat) : ((v.settle session remote artifact redos d).run
      (fun r s => (b r, s)) state).value = .ok true := by
    unfold settle
    rw [run_then]
    dsimp only
    rw [hattempt]
    rfl
  have hread : (readDigest v.digestCommand artifact.source artifact.path).run
      (fun r s => (b r, s)) state =
        ⟨.ok d, state, [v.probed artifact (.ok (d.line artifact.path))]⟩ := by
    simp [readDigest, Digest.ofOutput_line, Procedure.run, Procedure.bind, Procedure.request,
      Bind.bind, Pure.pure, h.probed, Verifier.probed]
  have hcompared : ((v.transferAndCompare remote artifact).run (fun r s => (b r, s)) state).value =
      .ok true := by
    unfold transferAndCompare
    rw [run_request_bind]
    dsimp only
    rw [h.connected]
    dsimp only
    rw [run_then, hread]
    exact hsettled v.maxRedos
  unfold verifyEndpoint
  rw [run_then]
  dsimp only
  rw [hcompared]
  rfl

/-- Surroundings that know a service at `endpoint`, and transfer every artifact as it is from what
is `up`. -/
def offering (endpoint : Endpoint) (up : String → Bool) : (r : Request) → Reply r
  | .findService .. => .ok endpoint
  | .connect remote => if up remote then .ok ⟨remote⟩ else .error (.connect remote "no answer")
  | .exec _ _ [path] => .ok ((Rehearsal.Md5.digestOf []).line path)
  | .createFile .. => some "Hk3vQ9"
  | .receive .. => .ok { content := [] }
  | .writeFile .. => .ok ()
  | r => Rehearsal.refusal r

theorem verifyEndpoint_offering (endpoint : Endpoint) (up : String → Bool) (remote : String)
    (artifact : Artifact) (state : Unit) :
    ((v.verifyEndpoint remote artifact).run (fun r s => (offering endpoint up r, s)) state).value =
      up remote := by
  cases hup : up remote with
  | true =>
    have hserving : v.Serving (offering endpoint up) remote artifact ⟨remote⟩ "Hk3vQ9"
        (Rehearsal.Md5.digestOf []) { content := [] } :=
      ⟨if_pos hup, rfl, rfl, rfl, rfl, rfl, rfl⟩
    exact hserving.verifyEndpoint_run state
  | false =>
    simp [verifyEndpoint, transferAndCompare, Procedure.reject, Procedure.error, logged,
      Procedure.run, Procedure.bind, Procedure.request, Bind.bind, Pure.pure, offering, hup]

/-- A service with two addresses passes if both are up. An invalid extra port or the first address
down fails it, and the second address is connected to all the same. -/
theorem verifyService_verdict_two_addresses :
    let endpoint (extraPorts : List Int) : Endpoint :=
      ⟨some "10.252.0.4", some "10.92.100.60", 69, extraPorts⟩
    let outcome (extraPorts : List Int) (up : String → Bool) :=
      (sampleVerifier.verifyService "cray-tftp" sampleArtifact).run
        (fun r s => (offering (endpoint extraPorts) up r, s)) ()
    (outcome [] fun _ => true).value = true ∧
    (outcome [0] fun _ => true).value = false ∧
    (outcome [] (· == "10.92.100.60:69")).value = false ∧
    connects (outcome [0] (· == "10.92.100.60:69")).events =
      ["10.252.0.4:69", "10.92.100.60:69"] := by
  intro endpoint outcome
  have verdict (extraPorts : List Int) (up : String → Bool) :=
    verifyService_verdict sampleVerifier "cray-tftp" sampleArtifact
      (fun r s => (offering (endpoint extraPorts) up r, s)) ()
  have hremotes (extraPorts : List Int) :
      remotes (.ok (endpoint extraPorts)) = ["10.252.0.4:69", "10.92.100.60:69"] := rfl
  have htransfers (extraPorts : List Int) (up : String → Bool) :
      (∀ transfer ∈ sampleVerifier.transfers sampleArtifact
        (fun r s => (offering (endpoint extraPorts) up r, s)) (.ok (endpoint extraPorts)) (),
        transfer.value = true) ↔
        up "10.252.0.4:69" = true ∧ up "10.92.100.60:69" = true := by
    simp [transfers, hremotes, runsInTurn, verifyEndpoint_offering]
  have hvalue (extraPorts : List Int) (up : String → Bool) :=
    (verdict extraPorts up).1
  have hserves : Serves (endpoint []) := ⟨by decide, by decide, List.forall_mem_nil _⟩
  refine ⟨(hvalue _ _).2 ⟨⟨_, rfl, hserves⟩, (htransfers _ _).2 ⟨rfl, rfl⟩⟩,
    Bool.eq_false_iff.2 fun h => ?_, Bool.eq_false_iff.2 fun h => ?_, ?_⟩
  · obtain ⟨⟨e, he, hserves⟩, -⟩ := (hvalue _ _).1 h
    obtain rfl := Except.ok.inj he
    exact absurd (hserves.2.2 0 (by decide)) (by decide)
  · have hup := (htransfers _ _).1 ((hvalue _ _).1 h).2
    exact absurd hup.1 (by decide)
  · exact (verdict _ _).2.2.trans (hremotes _)

end Verifier
end Transfer
end ClusterHealth
