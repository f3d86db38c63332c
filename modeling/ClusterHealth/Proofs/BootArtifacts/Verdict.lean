import ClusterHealth.Proofs.BootArtifacts.Ready
import ClusterHealth.Proofs.BootArtifacts.Requests
import ClusterHealth.Proofs.BootArtifacts.Transfers
import ClusterHealth.Proofs.Transfer.Service
import ClusterHealth.Rehearsal.Attempts
import ClusterHealth.Rehearsal.Md5

/-! The check of boot artifacts as a whole: everything is judged first, and artifacts are
transferred only if all of it is in order. -/
namespace ClusterHealth.Checks.BootArtifacts
open Procedure
open Event (requests)

variable (b : BootArtifacts)

/-- Everything that is judged before transfers: the builders found, and whether all is in order. -/
def judge : Procedure (List Builder × Bool) := do
  let (build, known) ← b.expected
  let (builders, built) ← b.builders build
  let served ← b.serversOk
  return (builders, known && built && served)

/-- What is left to do once everything is in order. -/
def proceed (builders : List Builder) : Procedure Bool := do
  if b.settings.skipOnMaster then
    match ← onMaster with
    | none => return false
    | some true => return true
    | some false => b.transfers builders
  else b.transfers builders

theorem check_eq :
    b.check = do
      let (builders, passed) ← b.judge
      if passed then b.proceed builders else return false := by
  unfold check judge proceed
  simp only [LawfulMonad.bind_assoc, pure_bind]
  congr 1
  funext known
  congr 1
  funext built
  congr 1
  funext served
  cases known.2 && built.2 && served with
  | false => rfl
  | true => rfl

theorem judge_yields {found : List Builder} {events : List Event} :
    b.judge.Yields events (found, true) ↔
      ∃ builders, found = builders.map Prod.snd ∧ b.Ready builders events := by
  unfold judge
  constructor
  · intro h
    obtain ⟨first, ⟨build, known⟩, _, rfl, hknown, hbehind⟩ := yields_bind.1 h
    obtain ⟨second, ⟨builders, built⟩, _, rfl, hbuilt, hlast⟩ := yields_bind.1 hbehind
    obtain ⟨third, served, _, rfl, hserved, rfl, hvalue⟩ := yields_bind.1 hlast
    obtain ⟨rfl, hpassed⟩ := Prod.mk.inj hvalue
    simp only [Bool.true_eq, Bool.and_eq_true] at hpassed
    obtain ⟨⟨rfl, rfl⟩, rfl⟩ := hpassed
    obtain ⟨text, settings, hdecoded, hbuilds, rfl⟩ := expected_yields.1 hknown
    obtain ⟨builders, rfl, rfl, hready⟩ := builders_yields.1 hbuilt
    obtain ⟨servers, hsome, hhealthy, rfl⟩ := serversOk_yields.1 hserved
    exact ⟨builders, rfl, .intro hdecoded hbuilds hready hsome hhealthy⟩
  · intro h
    obtain ⟨builders, rfl, hready⟩ := h
    cases hready with
    | intro hdecoded hbuilds hbuilders hsome hhealthy =>
      refine yields_bind.2 ⟨[_], (_, true), _, rfl,
        expected_yields.2 ⟨_, _, hdecoded, hbuilds, rfl⟩, ?_⟩
      refine yields_bind.2 ⟨_, (builders.map Prod.snd, true), _, rfl,
        builders_yields.2 ⟨builders, rfl, rfl, hbuilders⟩, ?_⟩
      exact yields_bind.2 ⟨_, true, [], (List.append_nil _).symm,
        serversOk_yields.2 ⟨_, hsome, hhealthy, rfl⟩, rfl, rfl⟩

theorem ready_of_judge (answer : (r : Request) → σ → Reply r × σ) (state : σ)
    (h : (b.judge.run answer state).value.2 = true) :
    ∃ builders, (b.judge.run answer state).value.1 = builders.map Prod.snd ∧
      b.Ready builders (b.judge.run answer state).events := by
  have hvalue : (b.judge.run answer state).value = ((b.judge.run answer state).value.1, true) :=
    Prod.ext rfl h
  have hyields := b.judge.yields_run answer state
  rw [hvalue] at hyields
  exact b.judge_yields.1 hyields

theorem judge_requests :
    b.judge.Always fun events _ => ∃ first,
      requests events =
        first ++ [.listPods b.nspace "cray-tftp", .claimPhase b.nspace b.settings.sharedClaim] ∧
      ∀ r ∈ first, r.Looks := by
  refine Always.bind (b.expected_asks.mono fun first known hfirst => ?_)
  refine Always.bind ((b.builders_asks _).mono fun second built hsecond => ?_)
  refine Always.bind (b.serversOk_makes.mono fun third served hthird => ?_)
  refine ⟨requests first ++ requests second, ?_, List.forall_mem_append.2 ⟨hfirst, hsecond⟩⟩
  simp [hthird]

/-- The request for the name of this host. -/
def hostname : Request := .exec .host "hostname" []

theorem onMaster_run (answer : (r : Request) → σ → Reply r × σ) (state : σ) :
    onMaster.run answer state =
      match answer hostname state with
      | (.ok name, next) =>
        ⟨some (Text.startsWith (Text.trim name) "ncn-m"), next, [.exchanged hostname (.ok name)]⟩
      | (.error e, next) =>
        ⟨none, next, [.exchanged hostname (.error e),
          .logged ⟨.error, "Error checking node hostname", [("error", e.message)]⟩]⟩ := by
  rcases hhost : answer hostname state with ⟨reply, next⟩
  have hask (f : Reply hostname → Procedure (Option Bool)) :
      (request hostname >>= f).run answer state =
        let rest := (f reply).run answer next
        ⟨rest.value, rest.state, .exchanged hostname reply :: rest.events⟩ := by
    change (ask hostname f).run answer state = _
    rw [run, hhost]
  refine (hask _).trans ?_
  cases reply with
  | ok name => rfl
  | error e => rfl

/-- How the check goes on when everything is in order. -/
inductive Proceeds (answer : (r : Request) → σ → Reply r × σ) (state : σ)
    (builders : List Builder) : List Event → Bool → Prop
  | onMaster {name : String} {next : σ} (skip : b.settings.skipOnMaster)
      (host : answer hostname state = (.ok name, next))
      (master : Text.startsWith (Text.trim name) "ncn-m") :
      Proceeds answer state builders [.exchanged hostname (.ok name)] true
  | nameless {e : ExecError} {next : σ} (skip : b.settings.skipOnMaster)
      (host : answer hostname state = (.error e, next)) :
      Proceeds answer state builders [.exchanged hostname (.error e),
        .logged ⟨.error, "Error checking node hostname", [("error", e.message)]⟩] false
  | elsewhere {name : String} {next : σ} {events : List Event} {passed : Bool}
      (skip : b.settings.skipOnMaster)
      (host : answer hostname state = (.ok name, next))
      (other : Text.startsWith (Text.trim name) "ncn-m" = false)
      (transferred : b.Transferred answer next builders events passed) :
      Proceeds answer state builders (.exchanged hostname (.ok name) :: events) passed
  | anywhere {events : List Event} {passed : Bool} (skip : b.settings.skipOnMaster = false)
      (transferred : b.Transferred answer state builders events passed) :
      Proceeds answer state builders events passed

theorem proceeds_run (answer : (r : Request) → σ → Reply r × σ) (state : σ)
    (builders : List Builder) :
    b.Proceeds answer state builders ((b.proceed builders).run answer state).events
      ((b.proceed builders).run answer state).value := by
  unfold proceed
  split
  · rename_i hskip
    have hmaster := onMaster_run answer state
    rcases hhost : answer hostname state with ⟨reply, next⟩
    rw [hhost] at hmaster
    change b.Proceeds answer state builders (Procedure.run answer (onMaster.bind _) state).events
      (Procedure.run answer (onMaster.bind _) state).value
    rw [run_bind]
    cases reply with
    | error e =>
      simp only [hmaster]
      exact .nameless hskip hhost
    | ok name =>
      simp only [hmaster]
      cases hname : Text.startsWith (Text.trim name) "ncn-m" with
      | true => exact .onMaster hskip hhost hname
      | false => exact .elsewhere hskip hhost hname (b.transferred_run answer next builders)
  · rename_i hskip
    exact .anywhere (Bool.eq_false_iff.2 hskip) (b.transferred_run answer state builders)

theorem check_verdict (answer : (r : Request) → σ → Reply r × σ) (state : σ) :
    let outcome := b.check.run answer state
    (∀ builders events next,
      b.Ready builders events → Follows (Answers answer) state events next →
      ∃ rest, outcome.events = events ++ rest ∧
        b.Proceeds answer next (builders.map Prod.snd) rest outcome.value) ∧
    ((∀ builders events next,
        b.Ready builders events → ¬Follows (Answers answer) state events next) →
      outcome.value = false ∧
      (∀ remote, .connect remote ∉ requests outcome.events) ∧
      ∃ first, requests outcome.events = first ++
        [.listPods b.nspace "cray-tftp", .claimPhase b.nspace b.settings.sharedClaim]) := by
  intro outcome
  have hcheck : outcome =
      let judged := b.judge.run answer state
      let rest := Procedure.run answer
        (if judged.value.2 then b.proceed judged.value.1 else pure false) judged.state
      ⟨rest.value, rest.state, judged.events ++ rest.events⟩ := by
    change b.check.run answer state = _
    rw [check_eq]
    exact run_bind ..
  constructor
  · intro builders events next hready hfollows
    have hjudged := (b.judge_yields.2 ⟨builders, rfl, hready⟩).run_eq hfollows
    rw [hjudged] at hcheck
    rw [hcheck]
    exact ⟨_, rfl, b.proceeds_run answer next _⟩
  · intro hnever
    have hfailed : (b.judge.run answer state).value.2 = false := by
      rw [← Bool.not_eq_true]
      intro hpassed
      -- A judgement that passes has itself been given the replies that are ruled out.
      obtain ⟨builders, -, hready⟩ := b.ready_of_judge answer state hpassed
      exact hnever builders _ _ hready (follows_run b.judge answer state)
    have hstop : outcome =
        ⟨false, (b.judge.run answer state).state, (b.judge.run answer state).events⟩ := by
      rw [hcheck]
      simp only [hfailed]
      exact congrArg _ (List.append_nil _)
    obtain ⟨first, hrequests, hlooks⟩ := b.judge_requests.run answer state
    rw [hstop]
    refine ⟨rfl, fun remote hconnect => ?_, first, hrequests⟩
    dsimp only at hconnect
    rw [hrequests] at hconnect
    rcases List.mem_append.1 hconnect with hfirst | hlast
    · exact hlooks _ hfirst
    · simp at hlast

/-- The check as it is configured unless it is configured otherwise. -/
def sample : BootArtifacts := ⟨.default, ⟨"services", "md5sum", "/tmp", 10, .octet⟩⟩

/-- A cluster in which everything is in order, as seen from the node `host`. -/
def nodeNamed (host : String) : (r : Request) → Reply r
  | .configMapField .. => .ok (some "cray_ipxe_binary_name: ipxe.efi")
  | .listPods _ start => .ok [⟨start, .running, [], []⟩]
  | .claimPhase .. => .ok "Bound"
  | .exec .host "hostname" [] => .ok host
  | .exec _ _ args => .ok ((Rehearsal.Md5.digestOf []).line (args.headD ""))
  | r => Transfer.Verifier.offering ⟨some "10.252.0.4", none, 69, []⟩ (fun _ => true) r

theorem verifyService_nodeNamed (host service name dir pod : String) (state : Unit) :
    let place := .inDir name dir (sample.container pod)
    let outcome := (sample.verifier.verifyService service place).run
      (fun r s => (nodeNamed host r, s)) state
    outcome.value = true ∧ Event.connects outcome.events = ["10.252.0.4:69"] := by
  intro place outcome
  let endpoint : Endpoint := ⟨some "10.252.0.4", none, 69, []⟩
  have hserving : sample.verifier.Serving (nodeNamed host) "10.252.0.4:69" place
      ⟨"10.252.0.4:69"⟩ "Hk3vQ9" (Rehearsal.Md5.digestOf []) { content := [] } :=
    ⟨rfl, rfl, rfl, rfl, rfl, rfl, rfl⟩
  have hremotes : Transfer.remotes (.ok endpoint) = ["10.252.0.4:69"] := rfl
  have htransfers : ∀ transfer ∈ sample.verifier.transfers place
      (fun r s => (nodeNamed host r, s)) (.ok endpoint) state, transfer.value = true := by
    simpa [Transfer.Verifier.transfers, hremotes, runsInTurn] using
      hserving.verifyEndpoint_run state
  have hserves : Transfer.Serves endpoint := ⟨by decide, by decide, List.forall_mem_nil _⟩
  constructor
  · exact (sample.verifier.verifyService_value_iff service place
      (fun r s => (nodeNamed host r, s)) state).2 ⟨⟨endpoint, rfl, hserves⟩, htransfers⟩
  · exact (sample.verifier.connects_verifyService service place _ state).trans hremotes

/-- A master node passes without transfers. A worker node passes as well, with a transfer from
each of the services. -/
theorem check_verdict_on_nodes :
    let outcome (host : String) := sample.check.run (fun r s => (nodeNamed host r, s)) ()
    (∃ judged, (outcome "ncn-m001\n").events =
        judged ++ [.exchanged hostname (.ok "ncn-m001\n")] ∧
      (outcome "ncn-m001\n").value = true) ∧
    ∃ judged transfers, (outcome "ncn-w001\n").events =
        judged ++ .exchanged hostname (.ok "ncn-w001\n") :: transfers ∧
      Event.connects transfers = ["10.252.0.4:69", "10.252.0.4:69"] ∧
      (outcome "ncn-w001\n").value = true := by
  intro outcome
  let built : List Builder := [⟨"cray-ipxe-x86-64", ["ipxe.efi"]⟩]
  have hproceeds (host : String)
      (hjudged : (sample.judge.run (fun r s => (nodeNamed host r, s)) ()).value = (built, true)) :
      ∃ (judged rest : List Event) (next : Unit), (outcome host).events = judged ++ rest ∧
        sample.Proceeds (fun r s => (nodeNamed host r, s)) next built rest
          (outcome host).value := by
    obtain ⟨builders, hbuilders, hready⟩ :=
      sample.ready_of_judge (fun r s => (nodeNamed host r, s)) () (by rw [hjudged])
    have hfollows := follows_run sample.judge (fun r s => (nodeNamed host r, s)) ()
    obtain ⟨rest, hevents, hrest⟩ :=
      (sample.check_verdict (fun r s => (nodeNamed host r, s)) ()).1 builders _ _ hready hfollows
    rw [← hbuilders, hjudged] at hrest
    exact ⟨_, rest, _, hevents, hrest⟩
  constructor
  · obtain ⟨judged, rest, next, hevents, hrest⟩ := hproceeds "ncn-m001\n" (by decide +kernel)
    rw [hevents]
    generalize (outcome "ncn-m001\n").value = passed at hrest
    cases hrest with
    | onMaster skip host master =>
      cases host
      exact ⟨judged, rfl, rfl⟩
    | nameless skip host => cases host
    | elsewhere skip host other transferred =>
      cases host
      exact absurd other (by decide)
    | anywhere skip transferred => exact absurd skip (by decide)
  · obtain ⟨judged, rest, next, hevents, hrest⟩ := hproceeds "ncn-w001\n" (by decide +kernel)
    rw [hevents]
    generalize (outcome "ncn-w001\n").value = passed at hrest
    cases hrest with
    | onMaster skip host master =>
      cases host
      exact absurd master (by decide)
    | nameless skip host => cases host
    | elsewhere skip host other transferred =>
      cases host
      obtain ⟨rfl, hpassed⟩ := transferred
      have hcombinations : sample.combinations built = ["cray-tftp", "cray-tftp-hmn"].map
          fun service => (service, .inDir "ipxe.efi" sample.settings.artifactDir
            (sample.container "cray-ipxe-x86-64")) := rfl
      have htransfer (service : String) := verifyService_nodeNamed "ncn-w001\n" service "ipxe.efi"
        sample.settings.artifactDir "cray-ipxe-x86-64"
      rw [hcombinations] at hpassed ⊢
      refine ⟨judged, _, rfl, ?_, hpassed.2 ?_⟩
      · simp [runsInTurn, fun service state => (htransfer service state).2]
      · simp [runsInTurn, fun service state => (htransfer service state).1]
    | anywhere skip transferred => exact absurd skip (by decide)

end ClusterHealth.Checks.BootArtifacts
