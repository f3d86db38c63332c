import ClusterHealth.Proofs.Digest
import ClusterHealth.Transfer.Verify

/-! The courses that a verified transfer can take: every sequence of requests, replies and log
entries, with what comes of it. -/
namespace ClusterHealth.Transfer
open Procedure

/-- A complete delivery reaches the file as a whole. -/
theorem Delivery.landed_of_complete {d : Delivery} (h : d.interruption = none) :
    d.landed = d.content := by
  rw [landed, h]

/-- What a reply of the digest command says of the file at `path`. -/
def reading (path : String) : Except ExecError String → Except ProbeError Digest
  | .error e => .error (.exec e)
  | .ok output => (Digest.ofOutput output path).mapError .digest

theorem reading_line (d : Digest) (path : String) : reading path (.ok (d.line path)) = .ok d := by
  rw [reading, Digest.ofOutput_line]
  rfl

/-- A reply without a digest is logged at once. -/
theorem readDigest_always (command : String) (target : Target) (path : String) :
    (readDigest command target path).Always fun events result =>
      (∃ d, events = [.exchanged (.exec target command [path]) (.ok (d.line path))] ∧
        result = .ok d) ∨
      ∃ reply entry e, events = [.exchanged (.exec target command [path]) reply, .logged entry] ∧
        reading path reply = .error e ∧ result = .error e := by
  unfold readDigest
  rw [always_request_bind]
  intro reply
  cases reply with
  | error e => exact .inr ⟨_, _, _, rfl, rfl, rfl⟩
  | ok output =>
    cases ho : Digest.ofOutput output path with
    | error e =>
      simp only [ho]
      have hreading : reading path (.ok output) = .error (.digest e) := by
        rw [reading, ho]
        rfl
      exact .inr ⟨_, _, _, rfl, hreading, rfl⟩
    | ok d =>
      simp only [ho]
      exact .inl ⟨d, by rw [Digest.ofOutput_eq_ok.1 ho], rfl⟩

theorem reportEndpoint_onlyLogs (nspace service : String) (endpoint : Endpoint) :
    (reportEndpoint nspace service endpoint).OnlyLogs := by
  unfold reportEndpoint
  dsimp only
  refine .when (onlyLogs_logged ..) fun _ => ?_
  refine .when (onlyLogs_logged ..) fun _ => ?_
  refine .when (onlyLogs_logged ..) fun _ => onlyLogs_forM fun port => ?_
  split
  · exact onlyLogs_logged ..
  · exact onlyLogs_logged ..

/-- A service is asked for once. -/
theorem lookUp_always (nspace service : String) :
    (lookUp nspace service).Always fun events _ => ∃ reply, ∃ entries : List Log.Entry,
      events = .exchanged (.findService nspace service) reply :: entries.map .logged := by
  unfold lookUp
  rw [always_request_bind]
  intro reply
  rcases reply with e | endpoint
  · exact ⟨_, [_], rfl⟩
  dsimp only
  split
  · exact ⟨_, [_], rfl⟩
  · refine Always.bind ((reportEndpoint_onlyLogs nspace service endpoint).mono ?_)
    intro events _ hevents
    obtain ⟨entries, rfl⟩ := hevents
    exact ⟨.ok endpoint, entries, by simp⟩

namespace Verifier
variable (v : Verifier)

/-! Exchanges of a verified transfer. -/

def connected (remote : String) (reply : Except TransferError Session) : Event :=
  .exchanged (.connect remote) reply

/-- The digest of the artifact, where it is served. -/
def probed (artifact : Artifact) (reply : Except ExecError String) : Event :=
  .exchanged (.exec artifact.source v.digestCommand [artifact.path]) reply

def created (artifact : Artifact) (tag : Option String) : Event :=
  .exchanged (.createFile v.scratchDir scratchLead (scratchTail artifact.name)) tag

def received (session : Session) (artifact : Artifact) (reply : Except TransferError Delivery) :
    Event :=
  .exchanged (.receive session artifact.name v.mode) reply

def written (file : String) (d : Delivery) (reply : Except WriteError Unit) : Event :=
  .exchanged (.writeFile file d.landed) reply

/-- The digest of the received file. -/
def digested (file : String) (reply : Except ExecError String) : Event :=
  .exchanged (.exec .host v.digestCommand [file]) reply

def removed (file : String) : Event := .exchanged (.removeFile file) ()

/-- The path of the scratch file with a tag. -/
def scratch (artifact : Artifact) (tag : String) : String :=
  scratchPath v.scratchDir tag artifact.name

/-- A complete delivery into `file`. -/
def arrival (session : Session) (artifact : Artifact) (file : String) (d : Delivery) :
    List Event :=
  [v.received session artifact (.ok d), written file d (.ok ())]

variable (session : Session) (remote : String) (artifact : Artifact)

/-- Courses of a transfer into `file`. -/
inductive Transferred (before : Digest) (file : String) :
    List Event → Except ProbeError Finding → Prop
  | refused (e : TransferError) :
    Transferred before file [v.received session artifact (.error e)] (.error (.transfer e))
  | unwritten (d : Delivery) (e : WriteError) :
    Transferred before file [v.received session artifact (.ok d), written file d (.error e)]
      (.error (.transfer (Verifier.unwritten remote artifact.name file e)))
  | interrupted (d : Delivery) (reason : String) (h : d.interruption = some reason) :
    Transferred before file (v.arrival session artifact file d)
      (.error (.transfer (.receive remote artifact.name reason)))
  | unprobed (d : Delivery) (reply : Except ExecError String) (entry : Log.Entry) (e : ProbeError)
    (whole : d.interruption = none) (h : reading artifact.path reply = .error e) :
    Transferred before file
      (v.arrival session artifact file d ++ [v.probed artifact reply, .logged entry]) (.error e)
  | changed (d : Delivery) (after : Digest) (whole : d.interruption = none) (h : after ≠ before) :
    Transferred before file
      (v.arrival session artifact file d ++ [v.probed artifact (.ok (after.line artifact.path))])
      (.ok (.changed after))
  | undigested (d : Delivery) (reply : Except ExecError String) (entry : Log.Entry)
    (e : ProbeError) (whole : d.interruption = none) (h : reading file reply = .error e) :
    Transferred before file
      (v.arrival session artifact file d ++
        [v.probed artifact (.ok (before.line artifact.path)), v.digested file reply,
          .logged entry])
      (.error e)
  | unequal (d : Delivery) (got : Digest) (entry : Log.Entry) (whole : d.interruption = none)
    (h : got ≠ before) :
    Transferred before file
      (v.arrival session artifact file d ++
        [v.probed artifact (.ok (before.line artifact.path)),
          v.digested file (.ok (got.line file)), .logged entry])
      (.ok (.settled false))
  | equal (d : Delivery) (whole : d.interruption = none) :
    Transferred before file
      (v.arrival session artifact file d ++
        [v.probed artifact (.ok (before.line artifact.path)),
          v.digested file (.ok (before.line file))])
      (.ok (.settled true))

/-- Courses of an attempt: the scratch file is gone afterwards. -/
inductive Attempted (before : Digest) : List Event → Except ProbeError Finding → Prop
  | fileless :
    Attempted before [v.created artifact none] (.error (.transfer (.localFile v.scratchDir)))
  | filed {events : List Event} {result : Except ProbeError Finding} (tag : String)
    (h : v.Transferred session remote artifact before (v.scratch artifact tag) events result) :
    Attempted before
      (v.created artifact (some tag) :: events ++ [removed (v.scratch artifact tag)]) result

/-- Says that the artifact changed, with `redos` repetitions left. -/
def redoEntry (redos : Nat) : Log.Entry :=
  ⟨.warn, "Remote file changed around the time of our transfer. Must redo transfer",
    [("remote", remote), ("artifact", artifact.name), ("redo", toString (v.maxRedos - redos))]⟩

/-- The cause of giving up on an artifact that does not settle. -/
def unstable : ProbeError := .transfer (.contentUnstable artifact.name v.maxRedos)

/-- Courses of attempts with up to `redos` repetitions. -/
inductive Settled : Nat → Digest → List Event → Except ProbeError Bool → Prop
  | failed {redos : Nat} {before : Digest} {events : List Event} (e : ProbeError)
    (h : v.Attempted session remote artifact before events (.error e)) :
    Settled redos before events (.error e)
  | ended {redos : Nat} {before : Digest} {events : List Event} (equal : Bool)
    (h : v.Attempted session remote artifact before events (.ok (.settled equal))) :
    Settled redos before events (.ok equal)
  | exhausted {before : Digest} {events : List Event} (after : Digest)
    (h : v.Attempted session remote artifact before events (.ok (.changed after))) :
    Settled 0 before events (.error (v.unstable artifact))
  | redone {redos : Nat} {before : Digest} {events rest : List Event}
    {result : Except ProbeError Bool} (after : Digest)
    (h : v.Attempted session remote artifact before events (.ok (.changed after)))
    (hrest : Settled redos after rest result) :
    Settled (redos + 1) before
      (events ++ .logged (v.redoEntry remote artifact redos) :: rest) result

/-- Says why the verification of an artifact failed. -/
def failureEntry (e : ProbeError) : Log.Entry :=
  ⟨.error, "tftp receive test failed",
    [("remote", remote), ("artifact", artifact.name), ("error", e.message)]⟩

/-- Courses of the verification of an artifact at one address. -/
inductive Verified : List Event → Bool → Prop
  | unconnected (e : TransferError) :
    Verified [connected remote (.error e), .logged (failureEntry remote artifact (.transfer e))]
      false
  | unprobed (session : Session) (reply : Except ExecError String) (entry : Log.Entry)
    (e : ProbeError) (h : reading artifact.path reply = .error e) :
    Verified
      [connected remote (.ok session), v.probed artifact reply, .logged entry,
        .logged (failureEntry remote artifact e)]
      false
  | judged {events : List Event} (session : Session) (before : Digest) (equal : Bool)
    (h : v.Settled session remote artifact v.maxRedos before events (.ok equal)) :
    Verified
      (connected remote (.ok session) :: v.probed artifact (.ok (before.line artifact.path)) ::
        events)
      equal
  | rejected {events : List Event} (session : Session) (before : Digest) (e : ProbeError)
    (h : v.Settled session remote artifact v.maxRedos before events (.error e)) :
    Verified
      (connected remote (.ok session) :: v.probed artifact (.ok (before.line artifact.path)) ::
        events ++ [.logged (failureEntry remote artifact e)])
      false

theorem fetch_always (file : String) :
    (v.fetch session remote artifact.name file).Always fun events result =>
      (∃ e, events = [v.received session artifact (.error e)] ∧ result = .error e) ∨
      (∃ d e, events = [v.received session artifact (.ok d), written file d (.error e)] ∧
        result = .error (unwritten remote artifact.name file e)) ∨
      ∃ d, events = v.arrival session artifact file d ∧
        ((∃ reason, d.interruption = some reason ∧
            result = .error (.receive remote artifact.name reason)) ∨
          d.interruption = none ∧ ∃ size, result = .ok size) := by
  unfold fetch
  rw [always_request_bind]
  intro reply
  rcases reply with e | d
  · exact .inl ⟨e, rfl, rfl⟩
  dsimp only
  rw [always_request_bind]
  intro reply
  rcases reply with e | _
  · exact .inr (.inl ⟨d, e, rfl, rfl⟩)
  cases hd : d.interruption with
  | some reason => exact .inr (.inr ⟨d, rfl, .inl ⟨reason, hd, rfl⟩⟩)
  | none => exact .inr (.inr ⟨d, rfl, .inr ⟨hd, _, rfl⟩⟩)

theorem compare_always (file : String) (digest : Digest) :
    (v.compare remote file digest).Always fun events result =>
      (∃ reply entry e, events = [v.digested file reply, .logged entry] ∧
        reading file reply = .error e ∧ result = .error e) ∨
      (∃ got entry, events = [v.digested file (.ok (got.line file)), .logged entry] ∧
        got ≠ digest ∧ result = .ok false) ∨
      events = [v.digested file (.ok (digest.line file))] ∧ result = .ok true := by
  unfold compare
  refine Always.bind ((readDigest_always v.digestCommand .host file).mono ?_)
  intro events result h
  rcases h with ⟨got, rfl, rfl⟩ | ⟨reply, entry, e, rfl, he, rfl⟩
  · by_cases hg : got = digest
    · subst hg
      simp only [if_true]
      exact .inr (.inr ⟨rfl, rfl⟩)
    · simp only [if_neg hg]
      exact .inr (.inl ⟨got, _, rfl, hg, rfl⟩)
  · exact .inl ⟨reply, entry, e, rfl, he, rfl⟩

theorem transfer_always (before : Digest) (file : String) :
    (v.transfer session remote artifact before file).Always
      (v.Transferred session remote artifact before file) := by
  unfold transfer
  refine Always.bind ((v.fetch_always session remote artifact file).mono ?_)
  intro events result h
  rcases h with
    ⟨e, rfl, rfl⟩ | ⟨d, e, rfl, rfl⟩ | ⟨d, rfl, ⟨reason, hd, rfl⟩ | ⟨hd, size, rfl⟩⟩
  · exact .refused e
  · exact .unwritten d e
  · exact .interrupted d reason hd
  refine Always.bind ((readDigest_always v.digestCommand artifact.source artifact.path).mono ?_)
  intro events result h
  rcases h with ⟨after, rfl, rfl⟩ | ⟨reply, entry, e, rfl, he, rfl⟩
  · by_cases ha : after = before
    · subst ha
      simp only [if_true]
      refine Always.bind ((v.compare_always remote file after).mono ?_)
      intro events result h
      rcases h with ⟨reply, entry, e, rfl, he, rfl⟩ | ⟨got, entry, rfl, hg, rfl⟩ | ⟨rfl, rfl⟩
      · exact .undigested d reply entry e hd he
      · exact .unequal d got entry hd hg
      · exact .equal d hd
    · simp only [if_neg ha]
      exact .changed d after hd ha
  · exact .unprobed d reply entry e hd he

theorem attempt_always (before : Digest) :
    (v.attempt session remote artifact before).Always
      (v.Attempted session remote artifact before) := by
  unfold attempt createScratch
  refine Always.bind ?_
  rw [always_request_bind]
  intro made
  rcases made with _ | tag
  · exact .fileless
  refine Always.bind ((v.transfer_always session remote artifact before _).mono ?_)
  intro events result h
  rw [always_request_bind]
  exact fun _ => .filed tag h

theorem settle_always (redos : Nat) (before : Digest) :
    (v.settle session remote artifact redos before).Always
      (v.Settled session remote artifact redos before) := by
  induction redos generalizing before with
  | zero =>
    unfold settle
    refine Always.bind ((v.attempt_always session remote artifact before).mono ?_)
    intro events result h
    rcases result with e | equal | after
    · simp only [always_pure, List.append_nil]
      exact .failed e h
    · simp only [always_pure, List.append_nil]
      exact .ended equal h
    · simp only [always_pure, List.append_nil]
      exact .exhausted after h
  | succ redos ih =>
    unfold settle
    refine Always.bind ((v.attempt_always session remote artifact before).mono ?_)
    intro events result h
    rcases result with e | equal | after
    · simp only [always_pure, List.append_nil]
      exact .failed e h
    · simp only [always_pure, List.append_nil]
      exact .ended equal h
    · exact (ih after).mono fun rest result hrest => .redone after h hrest

theorem verifyEndpoint_always :
    (v.verifyEndpoint remote artifact).Always (v.Verified remote artifact) := by
  unfold verifyEndpoint transferAndCompare
  refine Always.bind ?_
  rw [always_request_bind]
  intro connection
  rcases connection with e | session
  · exact .unconnected e
  refine Always.bind ((readDigest_always v.digestCommand artifact.source artifact.path).mono ?_)
  intro events result h
  rcases h with ⟨before, rfl, rfl⟩ | ⟨reply, entry, e, rfl, he, rfl⟩
  · refine (v.settle_always session remote artifact v.maxRedos before).mono ?_
    intro events result h
    rcases result with e | equal
    · exact .rejected session before e h
    · simp only [always_pure, List.append_nil]
      exact .judged session before equal h
  · exact .unprobed session reply entry e he

/-! A verifier, and an artifact in a pod, for runs to be shown of. -/

def sampleVerifier : Verifier := ⟨"services", "md5sum", "/tmp", 1, .octet⟩

def sampleArtifact : Artifact :=
  ⟨"boot/kernel", "/tftpboot/boot/kernel", .container "services" "cray-tftp-0" "tftp"⟩

def sampleFile : String := sampleVerifier.scratch sampleArtifact "Hk3vQ9"

end Verifier
end ClusterHealth.Transfer
