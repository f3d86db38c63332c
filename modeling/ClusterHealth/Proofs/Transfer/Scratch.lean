import ClusterHealth.Proofs.Transfer.Verdict

/-! Scratch files of verified transfers: there is one while an artifact is received and compared,
and none is left. -/
namespace ClusterHealth.Transfer
open Procedure
open Text (Bytes)

/-- What the files of this host hold, by their paths. -/
abbrev Files := String → Option Bytes

namespace Files

/-- Writing begins at the start of a file and does not shorten it. -/
def overwrite (old content : Bytes) : Bytes := content ++ old.drop content.length

/-- What events do to files. A created file is empty and lies where there was none; a failed write
may leave anything in its file; a removed file is gone. Nothing else touches a file. -/
def Step (files : Files) : Event → Files → Prop
  | .exchanged (.createFile dir lead tail) (some tag), next =>
    files (joined dir (lead ++ tag ++ tail)) = none ∧
      next = Function.update files (joined dir (lead ++ tag ++ tail)) (some [])
  | .exchanged (.writeFile path content) (.ok _), next =>
    ∃ old, files path = some old ∧
      next = Function.update files path (some (overwrite old content))
  | .exchanged (.writeFile path _) (.error _), next =>
    next = files ∨ ∃ old left, files path = some old ∧ next = Function.update files path (some left)
  | .exchanged (.removeFile path) _, next => next = Function.update files path none
  | _, next => next = files

/-- `now` has exactly one file more. -/
def OneMore (files now : Files) (path : String) (content : Bytes) : Prop :=
  files path = none ∧ now = Function.update files path (some content)

end Files

def IsReceive : Event → Prop
  | .exchanged (.receive ..) _ => True
  | _ => False

def IsExec : Event → Prop
  | .exchanged (.exec ..) _ => True
  | _ => False

/-- The bytes that a receive delivered. -/
def delivered? : Event → Option Bytes
  | .exchanged (.receive ..) (.ok d) => some d.content
  | _ => none

/-- The event before was the run of a command. -/
def BehindExec (past : List Event) : Prop := ∃ e, past.getLast? = some e ∧ IsExec e

/-- Neither receives anything nor runs a command, and leaves all files alone. -/
structure Quiet (event : Event) : Prop where
  not_receive : ¬IsReceive event
  not_exec : ¬IsExec event
  keeps {files next : Files} (h : files.Step event next) : next = files

theorem quiet_logged (entry : Log.Entry) : Quiet (.logged entry) := ⟨id, id, id⟩

theorem quiet_connected (remote : String) (reply : Except TransferError Session) :
    Quiet (Verifier.connected remote reply) := ⟨id, id, id⟩

theorem quiet_findService (nspace name : String) (reply : Except LookupError Endpoint) :
    Quiet (.exchanged (.findService nspace name) reply) := ⟨id, id, id⟩

theorem follows_quiet {now last : Files} {events : List Event} (h : ∀ e ∈ events, Quiet e)
    (hlast : Follows Files.Step now events last) : last = now := by
  induction events with
  | nil => exact hlast
  | cons event rest ih =>
    obtain ⟨next, hstep, hrest⟩ := hlast
    rw [(h event (by simp)).keeps hstep] at hrest
    exact ih (fun e he => h e (by simp [he])) hrest

namespace Verifier
variable (v : Verifier) (artifact : Artifact)

/-- While something is received there is one file more than in `files`, a scratch file. The digest
that is taken right behind another one is that of the scratch file, which is the only one and holds
exactly what was received last. Every other digest is that of the artifact. -/
structure Watched (files : Files) (past : List Event) (now : Files) (event : Event) : Prop where
  receiving (h : IsReceive event) :
    ∃ tag content, files.OneMore now (v.scratch artifact tag) content
  comparing (h : IsExec event) (hb : BehindExec past) : ∃ tag content reply,
    event = v.digested (v.scratch artifact tag) reply ∧
      files.OneMore now (v.scratch artifact tag) content ∧
      (past.filterMap delivered?).getLast? = some content
  probing (h : IsExec event) (hb : ¬BehindExec past) : ∃ reply, event = v.probed artifact reply

variable {v artifact} {files now : Files} {past : List Event}

theorem watched_quiet {event : Event} (h : Quiet event) : v.Watched artifact files past now event :=
  ⟨fun hr => absurd hr h.not_receive, fun he => absurd he h.not_exec,
    fun he => absurd he h.not_exec⟩

theorem watched_probed (reply : Except ExecError String) (hb : ¬BehindExec past) :
    v.Watched artifact files past now (v.probed artifact reply) :=
  ⟨False.elim, fun _ h => absurd h hb, fun _ _ => ⟨reply, rfl⟩⟩

theorem throughout_quiet {events : List Event} (h : ∀ e ∈ events, Quiet e) :
    Throughout Files.Step (v.Watched artifact files) past now events := by
  intro first event rest middle hsplit _
  exact watched_quiet (h event (by simp [hsplit]))

variable {session : Session} {remote : String} {file : String}

theorem Transferred.shape {before : Digest} {events : List Event}
    {result : Except ProbeError Finding}
    (h : v.Transferred session remote artifact before file events result) :
    (∃ e, events = [v.received session artifact (.error e)]) ∨
    (∃ d e, events = [v.received session artifact (.ok d), written file d (.error e)]) ∨
    ∃ d rest logs, events = v.arrival session artifact file d ++ (rest ++ logs) ∧
      (∀ e ∈ logs, Quiet e) ∧
      (rest = [] ∨ d.interruption = none ∧ ((∃ reply, rest = [v.probed artifact reply]) ∨
        ∃ reply reply', rest = [v.probed artifact reply, v.digested file reply'])) := by
  cases h with
  | refused e => exact .inl ⟨e, rfl⟩
  | unwritten d e => exact .inr (.inl ⟨d, e, rfl⟩)
  | interrupted d reason h => exact .inr (.inr ⟨d, [], [], rfl, by simp, .inl rfl⟩)
  | unprobed d reply entry e whole h =>
    exact .inr (.inr ⟨d, _, [_], rfl, by simp [quiet_logged], .inr ⟨whole, .inl ⟨reply, rfl⟩⟩⟩)
  | changed d after whole h =>
    exact .inr (.inr ⟨d, _, [], rfl, by simp, .inr ⟨whole, .inl ⟨_, rfl⟩⟩⟩)
  | undigested d reply entry e whole h =>
    exact .inr (.inr ⟨d, _, [_], rfl, by simp [quiet_logged], .inr ⟨whole, .inr ⟨_, reply, rfl⟩⟩⟩)
  | unequal d got entry whole h =>
    exact .inr (.inr ⟨d, _, [_], rfl, by simp [quiet_logged], .inr ⟨whole, .inr ⟨_, _, rfl⟩⟩⟩)
  | equal d whole =>
    exact .inr (.inr ⟨d, _, [], rfl, by simp, .inr ⟨whole, .inr ⟨_, _, rfl⟩⟩⟩)

theorem watched_received {tag : String} {content : Bytes}
    (hfree : files (v.scratch artifact tag) = none) (reply : Except TransferError Delivery) :
    v.Watched artifact files past (Function.update files (v.scratch artifact tag) (some content))
      (v.received session artifact reply) :=
  ⟨fun _ => ⟨tag, content, hfree, rfl⟩, False.elim, False.elim⟩

@[simp] theorem delivered?_received (d : Delivery) :
    delivered? (v.received session artifact (.ok d)) = some d.content := rfl

@[simp] theorem delivered?_written (d : Delivery) (reply : Except WriteError Unit) :
    delivered? (written file d reply) = none := rfl

@[simp] theorem delivered?_probed (reply : Except ExecError String) :
    delivered? (v.probed artifact reply) = none := rfl

theorem watched_written (d : Delivery) (reply : Except WriteError Unit) :
    v.Watched artifact files past now (written file d reply) :=
  ⟨False.elim, False.elim, False.elim⟩

theorem watched_digested {tag : String} {content : Bytes}
    (hfree : files (v.scratch artifact tag) = none) (reply : Except ExecError String)
    (hb : BehindExec past)
    (hlast : (past.filterMap delivered?).getLast? = some content) :
    v.Watched artifact files past (Function.update files (v.scratch artifact tag) (some content))
      (v.digested (v.scratch artifact tag) reply) :=
  ⟨False.elim, fun _ _ => ⟨tag, content, reply, rfl, ⟨hfree, rfl⟩, hlast⟩, fun _ h => absurd hb h⟩

theorem step_written {old : Bytes} {next : Files} (d : Delivery)
    (h : Files.Step (Function.update files file (some old)) (written file d (.ok ())) next) :
    next = Function.update files file (some (Files.overwrite old d.landed)) := by
  obtain ⟨held, hheld, rfl⟩ := h
  rw [Function.update_self, Option.some.injEq] at hheld
  rw [hheld, Function.update_idem]

/-- The first bytes of a new file are those that are written to it. -/
theorem overwrite_nil (content : Bytes) : Files.overwrite [] content = content := by
  simp [Files.overwrite]

theorem follows_arrival {last : Files} (d : Delivery)
    (h : Follows Files.Step (Function.update files file (some []))
      (v.arrival session artifact file d) last) :
    last = Function.update files file (some d.landed) := by
  obtain ⟨_, rfl, _, hwritten, rfl⟩ := h
  rw [step_written d hwritten, overwrite_nil]

theorem Transferred.watched {before : Digest} {tag : String} {events : List Event}
    {result : Except ProbeError Finding}
    (h : v.Transferred session remote artifact before (v.scratch artifact tag) events result)
    (hfree : files (v.scratch artifact tag) = none) :
    Throughout Files.Step (v.Watched artifact files) past
      (Function.update files (v.scratch artifact tag) (some [])) events := by
  rcases h.shape with ⟨e, rfl⟩ | ⟨d, e, rfl⟩ | ⟨d, rest, logs, rfl, hlogs, hrest⟩
  · exact throughout_cons.2 ⟨watched_received hfree _, fun _ _ => throughout_nil⟩
  · refine throughout_cons.2 ⟨watched_received hfree _, fun _ _ => ?_⟩
    exact throughout_cons.2 ⟨watched_written d _, fun _ _ => throughout_nil⟩
  refine throughout_append.2 ⟨?_, fun middle hmiddle => throughout_append.2 ⟨?_, fun _ _ =>
    throughout_quiet hlogs⟩⟩
  · refine throughout_cons.2 ⟨watched_received hfree _, fun _ _ => ?_⟩
    exact throughout_cons.2 ⟨watched_written d _, fun _ _ => throughout_nil⟩
  rw [follows_arrival d hmiddle]
  -- The artifact is probed behind a write, the received file behind that probe.
  have hb : ¬BehindExec (past ++ v.arrival session artifact (v.scratch artifact tag) d) := by
    intro hbehind
    obtain ⟨e, he, hexec⟩ := hbehind
    rw [arrival, List.append_cons, List.getLast?_concat, Option.some.injEq] at he
    rw [← he] at hexec
    exact hexec
  rcases hrest with rfl | ⟨whole, ⟨reply, rfl⟩ | ⟨reply, reply', rfl⟩⟩
  · exact throughout_nil
  · exact throughout_cons.2 ⟨watched_probed reply hb, fun _ _ => throughout_nil⟩
  · refine throughout_cons.2 ⟨watched_probed reply hb, fun next hnext => ?_⟩
    refine throughout_cons.2 ⟨?_, fun _ _ => throughout_nil⟩
    have hnow : next = _ := hnext
    rw [hnow]
    refine watched_digested hfree reply' ⟨_, List.getLast?_concat .., trivial⟩ ?_
    simp [arrival, List.filterMap_cons, Delivery.landed_of_complete whole]

theorem Transferred.follows {before : Digest} {events : List Event}
    {result : Except ProbeError Finding}
    (h : v.Transferred session remote artifact before file events result) {last : Files}
    (hlast : Follows Files.Step (Function.update files file (some [])) events last) :
    ∃ content, last = Function.update files file content := by
  rcases h.shape with ⟨e, rfl⟩ | ⟨d, e, rfl⟩ | ⟨d, rest, logs, rfl, hlogs, hrest⟩
  · obtain ⟨_, rfl, rfl⟩ := hlast
    exact ⟨_, rfl⟩
  · obtain ⟨_, rfl, _, rfl | ⟨_, left, _, rfl⟩, rfl⟩ := hlast
    · exact ⟨_, rfl⟩
    · exact ⟨left, by rw [Function.update_idem]⟩
  obtain ⟨middle, harrival, hrest'⟩ := follows_append.1 hlast
  obtain ⟨next, hprobes, hlogged⟩ := follows_append.1 hrest'
  refine ⟨some d.landed, ?_⟩
  rw [follows_quiet hlogs hlogged, ← follows_arrival d harrival]
  rcases hrest with rfl | ⟨-, ⟨reply, rfl⟩ | ⟨reply, reply', rfl⟩⟩
  · exact hprobes
  · obtain ⟨_, rfl, rfl⟩ := hprobes
    rfl
  · obtain ⟨_, rfl, _, rfl, rfl⟩ := hprobes
    rfl

variable (v artifact) in
/-- The scratch directory is watched all along and left as it was. -/
def Tidy (events : List Event) : Prop :=
  ∀ past files, Throughout Files.Step (v.Watched artifact files) past files events ∧
    ∀ last, Follows Files.Step files events last → last = files

theorem tidy_quiet {events : List Event} (h : ∀ e ∈ events, Quiet e) : v.Tidy artifact events :=
  fun _ _ => ⟨throughout_quiet h, fun _ => follows_quiet h⟩

theorem tidy_logged (entry : Log.Entry) : v.Tidy artifact [.logged entry] :=
  tidy_quiet (by simp [quiet_logged])

theorem Tidy.append {first second : List Event} (h₁ : v.Tidy artifact first)
    (h₂ : v.Tidy artifact second) : v.Tidy artifact (first ++ second) := by
  intro past files
  obtain ⟨hwatched, hkept⟩ := h₁ past files
  refine ⟨throughout_append.2 ⟨hwatched, fun middle hmiddle => ?_⟩, fun last hlast => ?_⟩
  · rw [hkept middle hmiddle]
    exact (h₂ _ files).1
  · obtain ⟨middle, hmiddle, hsecond⟩ := follows_append.1 hlast
    rw [hkept middle hmiddle] at hsecond
    exact (h₂ past files).2 last hsecond

theorem Attempted.tidy {before : Digest} {events : List Event} {result : Except ProbeError Finding}
    (h : v.Attempted session remote artifact before events result) : v.Tidy artifact events := by
  intro past files
  cases h with
  | fileless =>
    refine ⟨throughout_cons.2 ⟨⟨False.elim, False.elim, False.elim⟩, fun _ _ => throughout_nil⟩, ?_⟩
    intro last hlast
    obtain ⟨_, rfl, rfl⟩ := hlast
    rfl
  | filed tag h =>
    refine ⟨throughout_cons.2 ⟨⟨False.elim, False.elim, False.elim⟩, ?_⟩, ?_⟩
    · intro next hnext
      obtain ⟨hfree, rfl⟩ := hnext
      refine throughout_append.2 ⟨h.watched hfree, fun _ _ => ?_⟩
      exact throughout_cons.2 ⟨⟨False.elim, False.elim, False.elim⟩, fun _ _ => throughout_nil⟩
    · intro last hlast
      obtain ⟨_, ⟨hfree, rfl⟩, hrest⟩ := hlast
      obtain ⟨middle, htransfer, _, rfl, rfl⟩ := follows_append.1 hrest
      obtain ⟨content, rfl⟩ := h.follows htransfer
      rw [Function.update_idem, Function.update_eq_self_iff]
      exact hfree.symm

theorem Settled.tidy {redos : Nat} {before : Digest} {events : List Event}
    {result : Except ProbeError Bool}
    (h : v.Settled session remote artifact redos before events result) :
    v.Tidy artifact events := by
  induction h with
  | failed e h => exact h.tidy
  | ended equal h => exact h.tidy
  | exhausted after h => exact h.tidy
  | redone after h hrest ih =>
    exact h.tidy.append ((tidy_logged _).append ih)

/-- A connection and the first digest of an artifact. -/
theorem tidy_opening (connection : Except TransferError Session) (reply : Except ExecError String) :
    v.Tidy artifact [connected remote connection, v.probed artifact reply] := by
  intro past files
  refine ⟨throughout_cons.2 ⟨watched_quiet (quiet_connected ..), fun _ _ => ?_⟩, ?_⟩
  · refine throughout_cons.2 ⟨watched_probed reply ?_, fun _ _ => throughout_nil⟩
    intro hbehind
    obtain ⟨e, he, hexec⟩ := hbehind
    rw [List.getLast?_concat, Option.some.injEq] at he
    rw [← he] at hexec
    exact hexec
  · intro last hlast
    obtain ⟨_, rfl, _, rfl, rfl⟩ := hlast
    rfl

theorem Verified.tidy {events : List Event} {value : Bool}
    (h : v.Verified remote artifact events value) : v.Tidy artifact events := by
  cases h with
  | unconnected e => exact tidy_quiet (by simp [quiet_connected, quiet_logged])
  | unprobed session reply entry e h =>
    exact (tidy_opening _ reply).append ((tidy_logged entry).append (tidy_logged _))
  | judged session before equal h => exact (tidy_opening _ _).append h.tidy
  | rejected session before e h =>
    exact ((tidy_opening _ _).append h.tidy).append (tidy_logged _)

theorem verifyService_tidy (service : String) :
    (v.verifyService service artifact).Always fun events _ => v.Tidy artifact events := by
  unfold verifyService
  refine Always.bind ((lookUp_always v.nspace service).mono ?_)
  intro events found hevents
  obtain ⟨reply, entries, rfl⟩ := hevents
  rcases found with e | endpoint
  · exact tidy_quiet (by simp [quiet_findService, quiet_logged])
  have hasked : v.Tidy artifact
      (.exchanged (.findService v.nspace service) reply :: entries.map .logged) :=
    tidy_quiet (by simp [quiet_findService, quiet_logged])
  dsimp only
  split
  · exact hasked.append (tidy_logged _)
  have htargets : (forAll endpoint.targets fun target => v.verifyEndpoint target.2 artifact).Always
      fun events _ => v.Tidy artifact events :=
    Always.forAll (fun target _ => (v.verifyEndpoint_always target.2 artifact).mono
      fun _ _ h => h.tidy) (tidy_quiet (by simp)) fun _ _ => Tidy.append
  refine Always.bind (htargets.mono fun events _ hevents => ?_)
  rw [always_pure, List.append_nil]
  exact hasked.append hevents

variable (v artifact) in
/-- Whatever the ports answer: the scratch file of a transfer is the only one while the artifact is
received and compared, it then holds what was received last, and no file is left behind. -/
theorem verify_keeps_files {σ : Type} (answer : (r : Request) → σ → Reply r × σ) (state : σ)
    (files : Files) :
    (∀ remote, let events := ((v.verifyEndpoint remote artifact).run answer state).events
      Throughout Files.Step (v.Watched artifact files) [] files events ∧
        ∀ last, Follows Files.Step files events last → last = files) ∧
    ∀ service, let events := ((v.verifyService service artifact).run answer state).events
      Throughout Files.Step (v.Watched artifact files) [] files events ∧
        ∀ last, Follows Files.Step files events last → last = files := by
  constructor
  · intro remote
    exact ((v.verifyEndpoint_always remote artifact).run answer state).tidy [] files
  · intro service
    exact (verifyService_tidy service).run answer state [] files

/-- A file system without the scratch file can follow a verification that redoes a transfer. -/
theorem exists_follows_eventsOnce (digestOf : Bytes → Digest) (old new : Bytes)
    (hfree : files sampleFile = none) :
    ∃ last, Follows Files.Step files (eventsOnce digestOf old new) last := by
  have hwritten (content : Bytes) : Files.Step (Function.update files sampleFile (some []))
      (written sampleFile { content } (.ok ()))
      (Function.update files sampleFile (some content)) := by
    refine ⟨[], Function.update_self .., ?_⟩
    rw [Function.update_idem, overwrite_nil]
    rfl
  have hremoved (content : Bytes) :
      Files.Step (Function.update files sampleFile (some content)) (removed sampleFile) files := by
    have hgone : Function.update (Function.update files sampleFile (some content)) sampleFile none =
        files := by
      rw [Function.update_idem, Function.update_eq_self_iff]
      exact hfree.symm
    exact hgone.symm
  exact ⟨files, _, rfl, _, rfl, _, ⟨hfree, rfl⟩, _, rfl, _, hwritten old, _, rfl, _, hremoved old,
    _, rfl, _, ⟨hfree, rfl⟩, _, rfl, _, hwritten new, _, rfl, _, rfl, _, hremoved new, rfl⟩

/-- A file that lies there before is left alone. The scratch file of a second transfer is the only
other one and holds what the second receive brought. -/
theorem verify_keeps_files_replaced_once :
    let files : Files := fun path => if path = "/tmp/notes" then some [7] else none
    let events := ((sampleVerifier.verifyEndpoint "10.92.100.60" sampleArtifact).run
      (replacedOnce Rehearsal.Md5.digestOf [1] [2] 2).answer Tally.zero).events
    ∃ first reply now last,
      events = first ++ [sampleVerifier.digested sampleFile reply, removed sampleFile] ∧
      Follows Files.Step files first now ∧ files.OneMore now sampleFile [2] ∧
      Follows Files.Step files events last ∧ last = files := by
  intro files events
  have hne : Rehearsal.Md5.digestOf [2] ≠ Rehearsal.Md5.digestOf [1] := by decide +kernel
  obtain ⟨hkeeps, -⟩ := verify_keeps_files sampleVerifier sampleArtifact
    (replacedOnce Rehearsal.Md5.digestOf [1] [2] 2).answer Tally.zero files
  obtain ⟨hwatched, hkept⟩ := hkeeps "10.92.100.60"
  have hevents : events = eventsOnce Rehearsal.Md5.digestOf [1] [2] := events_replacedOnce _ _ _ hne
  have hfree : files sampleFile = none := rfl
  obtain ⟨last, hlast⟩ := exists_follows_eventsOnce Rehearsal.Md5.digestOf [1] [2] hfree
  rw [← hevents] at hlast
  obtain ⟨now, hnow, -⟩ := follows_append.1 (hevents ▸ hlast)
  obtain ⟨tag, content, reply, hdigested, hmore, hcontent⟩ :=
    (hwatched _ _ _ now hevents hnow).comparing trivial ⟨_, rfl, trivial⟩
  obtain rfl : content = [2] := (Option.some.inj hcontent).symm
  obtain ⟨hfile, -⟩ : sampleFile = sampleVerifier.scratch sampleArtifact tag ∧ _ := by
    simpa [digested] using hdigested
  rw [← hfile] at hmore
  exact ⟨_, _, now, last, hevents, hnow, hmore, hlast, hkept last hlast⟩

end Verifier
end ClusterHealth.Transfer
