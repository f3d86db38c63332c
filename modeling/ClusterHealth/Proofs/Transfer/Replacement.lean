import ClusterHealth.Proofs.Transfer.Scratch
import ClusterHealth.Proofs.Transfer.Verdict

/-! Verified transfers of an artifact that is replaced meanwhile. Replacements and the events of a
run come in any order on one timeline. -/
namespace ClusterHealth.Transfer
open Procedure
open Text (Bytes)

/-- An event of a run, or a replacement of what the server holds. -/
inductive Moment where
  | happened (event : Event)
  | replaced (content : Bytes)

def eventsOf : List Moment → List Event
  | [] => []
  | .happened event :: rest => event :: eventsOf rest
  | .replaced _ :: rest => eventsOf rest

def replacementsOf : List Moment → List Bytes
  | [] => []
  | .happened _ :: rest => replacementsOf rest
  | .replaced content :: rest => content :: replacementsOf rest

/-- What the server holds in the end. -/
def served (initial : Bytes) : List Moment → Bytes
  | [] => initial
  | .happened _ :: rest => served initial rest
  | .replaced content :: rest => served content rest

theorem eventsOf_append (first second : List Moment) :
    eventsOf (first ++ second) = eventsOf first ++ eventsOf second := by
  induction first with
  | nil => rfl
  | cons moment rest ih => cases moment <;> simp [eventsOf, ih]

theorem replacementsOf_append (first second : List Moment) :
    replacementsOf (first ++ second) = replacementsOf first ++ replacementsOf second := by
  induction first with
  | nil => rfl
  | cons moment rest ih => cases moment <;> simp [replacementsOf, ih]

theorem served_append (initial : Bytes) (first second : List Moment) :
    served initial (first ++ second) = served (served initial first) second := by
  induction first generalizing initial with
  | nil => rfl
  | cons moment rest ih => cases moment <;> simp [served, ih]

theorem served_of_unreplaced {initial : Bytes} {timeline : List Moment}
    (h : replacementsOf timeline = []) : served initial timeline = initial := by
  induction timeline with
  | nil => rfl
  | cons moment rest ih =>
    cases moment with
    | happened event => exact ih h
    | replaced content => cases h

theorem served_mem {initial : Bytes} {timeline : List Moment} (h : replacementsOf timeline ≠ []) :
    served initial timeline ∈ replacementsOf timeline := by
  induction timeline generalizing initial with
  | nil => exact absurd rfl h
  | cons moment rest ih =>
    cases moment with
    | happened event => exact ih h
    | replaced content =>
      by_cases hrest : replacementsOf rest = []
      · simp [served, replacementsOf, served_of_unreplaced hrest]
      · exact List.mem_cons_of_mem content (ih hrest)

/-- What the server holds, and the files of this host. -/
structure Site where
  held : Bytes
  files : Files

variable (v : Verifier) (artifact : Artifact) (digestOf : Bytes → Digest)

/-- A digest command that succeeds prints the digest of what its file holds at that moment. -/
structure Honest (site : Site) (event : Event) : Prop where
  probed : ∀ output, event = v.probed artifact (.ok output) →
    output = (digestOf site.held).line artifact.path
  digested : ∀ file content output, site.files file = some content →
    event = v.digested file (.ok output) → output = (digestOf content).line file

def Site.Step (site : Site) : Moment → Site → Prop
  | .happened event, next => Honest v artifact digestOf site event ∧
    ∃ files, site.files.Step event files ∧ next = ⟨site.held, files⟩
  | .replaced content, next => next = ⟨content, site.files⟩

/-- Something is received on the timeline, and the artifact is probed right before and after it. The
first probe comes behind `before`, the delivery behind `meanwhile`. -/
structure Bracketed (timeline before meanwhile : List Moment) (d : Delivery)
    (thereupon after : List Moment) : Prop where
  split : ∃ session first second, timeline =
    before ++ .happened (v.probed artifact first) ::
      (meanwhile ++ .happened (v.received session artifact (.ok d)) ::
        (thereupon ++ .happened (v.probed artifact second) :: after))
  between : ∀ event ∈ eventsOf (meanwhile ++ thereupon), ¬IsReceive event ∧ ¬IsExec event

/-- Nothing fails, the server replaces its content by others with digests of their own and not too
often, and what is received while nothing is replaced is what the server holds. -/
structure Tolerable (initial : Bytes) (timeline : List Moment) : Prop where
  fine : ∀ event ∈ eventsOf timeline, ¬Failed event
  distinct : ((initial :: replacementsOf timeline).map digestOf).Nodup
  few : (replacementsOf timeline).length ≤ v.maxRedos
  faithful : ∀ a b d c e, Bracketed v artifact timeline a b d c e →
    replacementsOf (b ++ c) = [] → d.content = served initial a

variable {v artifact digestOf} {site last : Site} {timeline : List Moment}

theorem exists_split {first rest : List Event} {event : Event}
    (h : eventsOf timeline = first ++ event :: rest) :
    ∃ a b, timeline = a ++ .happened event :: b ∧ eventsOf a = first ∧ eventsOf b = rest := by
  induction timeline generalizing first with
  | nil => simp [eventsOf] at h
  | cons moment others ih =>
    cases moment with
    | replaced content =>
      obtain ⟨a, b, rfl, ha, hb⟩ := ih h
      exact ⟨.replaced content :: a, b, rfl, ha, hb⟩
    | happened event' =>
      cases first with
      | nil =>
        obtain ⟨rfl, hrest⟩ := List.cons.inj h
        exact ⟨[], others, rfl, rfl, hrest⟩
      | cons f first =>
        obtain ⟨rfl, hrest⟩ := List.cons.inj h
        obtain ⟨a, b, rfl, ha, hb⟩ := ih hrest
        exact ⟨.happened event' :: a, b, rfl, by rw [eventsOf, ha], hb⟩

theorem follows_site (h : Follows (Site.Step v artifact digestOf) site timeline last) :
    last.held = served site.held timeline ∧
      Follows Files.Step site.files (eventsOf timeline) last.files := by
  induction timeline generalizing site with
  | nil =>
    have hlast : last = site := h
    rw [hlast]
    exact ⟨rfl, rfl⟩
  | cons moment rest ih =>
    cases moment with
    | happened event =>
      obtain ⟨_, ⟨-, files, hfiles, rfl⟩, hrest⟩ := h
      obtain ⟨hheld, hlast⟩ := ih hrest
      exact ⟨hheld, files, hfiles, hlast⟩
    | replaced content =>
      obtain ⟨_, rfl, hrest⟩ := h
      exact ih hrest

/-- Looks at one event of a timeline. -/
theorem follows_split {first rest : List Event} {event : Event}
    (h : eventsOf timeline = first ++ event :: rest)
    (hf : Follows (Site.Step v artifact digestOf) site timeline last) :
    ∃ a b files next, timeline = a ++ .happened event :: b ∧ eventsOf a = first ∧
      eventsOf b = rest ∧ Follows Files.Step site.files first files ∧
      Honest v artifact digestOf ⟨served site.held a, files⟩ event ∧ files.Step event next ∧
      Follows (Site.Step v artifact digestOf) ⟨served site.held a, next⟩ b last := by
  obtain ⟨a, b, rfl, rfl, rfl⟩ := exists_split h
  obtain ⟨⟨held, files⟩, ha, _, ⟨honest, next, hnext, rfl⟩, hb⟩ := follows_append.1 hf
  obtain ⟨hheld, hfiles⟩ := follows_site ha
  have hheld : held = served site.held a := hheld
  subst hheld
  exact ⟨a, b, files, next, rfl, rfl, rfl, hfiles, honest, hnext, hb⟩

theorem honest_of_not_exec {event : Event} (h : ¬IsExec event) :
    Honest v artifact digestOf site event := by
  constructor
  · intro output hevent
    rw [hevent] at h
    exact absurd trivial h
  · intro file content output _ hevent
    rw [hevent] at h
    exact absurd trivial h

theorem honest_probed {held : Bytes} {files : Files} (hsource : artifact.source ≠ .host) :
    Honest v artifact digestOf ⟨held, files⟩
      (v.probed artifact (.ok ((digestOf held).line artifact.path))) := by
  constructor
  · intro output h
    simpa [Verifier.probed] using h.symm
  · intro file content output _ h
    simp only [Verifier.probed, Verifier.digested, Event.exchanged.injEq, Request.exec.injEq] at h
    exact absurd h.1.1 hsource

theorem honest_digested {held : Bytes} {files : Files} {file : String} {content : Bytes}
    (hsource : artifact.source ≠ .host) (hfile : files file = some content) :
    Honest v artifact digestOf ⟨held, files⟩
      (v.digested file (.ok ((digestOf content).line file))) := by
  constructor
  · intro output h
    simp only [Verifier.probed, Verifier.digested, Event.exchanged.injEq, Request.exec.injEq] at h
    exact absurd h.1.1.symm hsource
  · intro file' content' output hfile' h
    simp only [Verifier.digested, Event.exchanged.injEq, Request.exec.injEq, List.cons.injEq,
      and_true, true_and] at h
    obtain ⟨hpath, houtput⟩ := h
    subst hpath
    obtain rfl := Option.some.inj (hfile.symm.trans hfile')
    simpa using houtput.symm

theorem exists_follows_happened {held : Bytes} {files next : Files} {event : Event}
    (honest : Honest v artifact digestOf ⟨held, files⟩ event) (hstep : files.Step event next)
    (hrest : ∃ last, Follows (Site.Step v artifact digestOf) ⟨held, next⟩ timeline last) :
    ∃ last, Follows (Site.Step v artifact digestOf) ⟨held, files⟩ (.happened event :: timeline)
      last := by
  obtain ⟨last, hlast⟩ := hrest
  exact ⟨last, _, ⟨honest, next, hstep, rfl⟩, hlast⟩

theorem exists_follows_replaced {held content : Bytes} {files : Files}
    (hrest : ∃ last, Follows (Site.Step v artifact digestOf) ⟨content, files⟩ timeline last) :
    ∃ last, Follows (Site.Step v artifact digestOf) ⟨held, files⟩ (.replaced content :: timeline)
      last := by
  obtain ⟨last, hlast⟩ := hrest
  exact ⟨last, _, rfl, hlast⟩

/-- Something in front of a timeline does not change what is bracketed on it. -/
theorem Bracketed.behind {before meanwhile thereupon after : List Moment} {d : Delivery}
    (h : Bracketed v artifact timeline before meanwhile d thereupon after) (past : List Moment) :
    Bracketed v artifact (past ++ timeline) (past ++ before) meanwhile d thereupon after := by
  obtain ⟨⟨session, first, second, rfl⟩, hbetween⟩ := h
  exact ⟨⟨session, first, second, by simp⟩, hbetween⟩

namespace Verifier
variable {session : Session} {remote : String} {initial held : Bytes} {files : Files}
  {pre events rest : List Event} {before : Digest}

/-- A transfer up to the digest behind it: what came between its digests, and what the surroundings
are then. -/
theorem follows_round {tag output : String} {d : Delivery}
    (h : eventsOf timeline = pre ++ v.created artifact (some tag) ::
      (v.arrival session artifact (v.scratch artifact tag) d ++
        v.probed artifact (.ok output) :: rest))
    (hpre : ∀ event ∈ pre, ¬IsReceive event ∧ ¬IsExec event)
    (hf : Follows (Site.Step v artifact digestOf) ⟨held, files⟩ timeline last) :
    ∃ b c e now,
      timeline = b ++ .happened (v.received session artifact (.ok d)) ::
        (c ++ .happened (v.probed artifact (.ok output)) :: e) ∧
      replacementsOf timeline = replacementsOf (b ++ c) ++ replacementsOf e ∧
      (∀ opening,
        Bracketed v artifact (.happened (v.probed artifact opening) :: timeline) [] b d c e) ∧
      output = (digestOf (served held (b ++ c))).line artifact.path ∧ eventsOf e = rest ∧
      now (v.scratch artifact tag) = some d.landed ∧
      Follows (Site.Step v artifact digestOf) ⟨served held (b ++ c), now⟩ e last := by
  have hreceived : eventsOf timeline = (pre ++ [v.created artifact (some tag)]) ++
      v.received session artifact (.ok d) ::
        ([written (v.scratch artifact tag) d (.ok ())] ++
          v.probed artifact (.ok output) :: rest) := by
    simpa [arrival] using h
  obtain ⟨b, t, files', _, rfl, hb, ht, hfiles, -, rfl, hf⟩ := follows_split hreceived hf
  obtain ⟨c, e, now, _, rfl, hc, he, hnow, honest, rfl, hf⟩ := follows_split ht hf
  obtain ⟨_, -, _, ⟨-, rfl⟩, rfl⟩ := follows_append.1 hfiles
  obtain ⟨_, hwritten, rfl⟩ := hnow
  have houtput := honest.probed output rfl
  rw [← served_append] at houtput hf
  refine ⟨b, c, e, _, rfl, ?_, fun opening => ⟨⟨session, opening, .ok output, rfl⟩, ?_⟩, houtput,
    he, ?_, hf⟩
  · simp [replacementsOf_append, replacementsOf]
  · rw [eventsOf_append, hb, hc]
    simp only [List.append_assoc, List.forall_mem_append]
    exact ⟨hpre, by simp [created, IsReceive, IsExec], by simp [written, IsReceive, IsExec]⟩
  · rw [step_written d hwritten, overwrite_nil]
    exact Function.update_self ..

/-- The digest of the received file, right behind everything else. -/
theorem follows_digested {file : String} {content : Bytes} {got : Digest}
    (h : eventsOf timeline = v.digested file (.ok (got.line file)) :: rest)
    (hfile : files file = some content)
    (hf : Follows (Site.Step v artifact digestOf) ⟨held, files⟩ timeline last) :
    got = digestOf content := by
  have hevents : eventsOf timeline = [] ++ v.digested file (.ok (got.line file)) :: rest := h
  obtain ⟨a, b, now, _, rfl, ha, hb, hfiles, honest, -⟩ := follows_split hevents hf
  have hnow : now = files := hfiles
  exact Digest.line_inj.1 (honest.digested file content _ (hnow ▸ hfile) rfl)

/-- A transfer that must be redone ends with the digest of what the server then holds. -/
theorem Attempted.follows_changed {after : Digest}
    (h : v.Attempted session remote artifact before events (.ok (.changed after)))
    (hevents : eventsOf timeline = pre ++ (events ++ rest))
    (hpre : ∀ event ∈ pre, ¬IsReceive event ∧ ¬IsExec event)
    (hf : Follows (Site.Step v artifact digestOf) ⟨held, files⟩ timeline last) :
    ∃ file d b c e now,
      timeline = b ++ .happened (v.received session artifact (.ok d)) ::
        (c ++ .happened (v.probed artifact (.ok (after.line artifact.path))) :: e) ∧
      replacementsOf timeline = replacementsOf (b ++ c) ++ replacementsOf e ∧
      after ≠ before ∧ after = digestOf (served held (b ++ c)) ∧
      eventsOf e = removed file :: rest ∧
      Follows (Site.Step v artifact digestOf) ⟨served held (b ++ c), now⟩ e last := by
  cases h with
  | filed tag h =>
    cases h with
    | changed d after whole hne =>
      obtain ⟨b, c, e, now, htimeline, hreplacements, -, houtput, he, -, hf⟩ :=
        follows_round (by simpa using hevents) hpre hf
      exact ⟨_, d, b, c, e, now, htimeline, hreplacements, hne, Digest.line_inj.1 houtput, he, hf⟩

theorem not_receive_redo (file : String) (redos : Nat) :
    ∀ event ∈ [removed file, .logged (v.redoEntry remote artifact redos)],
      ¬IsReceive event ∧ ¬IsExec event := by
  simp [removed, IsReceive, IsExec]

/-- What is received last in a verification that succeeds has the digest of what the server held
right before and after it. -/
theorem Settled.sound {redos : Nat} {result : Except ProbeError Bool}
    (h : v.Settled session remote artifact redos before events result) (hresult : result = .ok true)
    (opening : Except ExecError String) (hevents : eventsOf timeline = pre ++ events)
    (hpre : ∀ event ∈ pre, ¬IsReceive event ∧ ¬IsExec event)
    (hf : Follows (Site.Step v artifact digestOf) ⟨held, files⟩ timeline last)
    (hbefore : before = digestOf held) :
    ∃ a b d c e,
      Bracketed v artifact (.happened (v.probed artifact opening) :: timeline) a b d c e ∧
      (∀ event ∈ eventsOf e, ¬IsReceive event) ∧
      digestOf d.content = digestOf (served held a) ∧
      digestOf d.content = digestOf (served held (a ++ b ++ c)) := by
  induction h generalizing timeline pre held files opening with
  | failed e h => cases hresult
  | exhausted after h => cases hresult
  | ended equal h =>
    cases h with
    | filed tag h =>
      cases h with
      | unequal d got entry whole hne => cases hresult
      | equal d whole =>
        obtain ⟨b, c, e, now, -, -, hbracketed, houtput, he, hnow, hf⟩ :=
          follows_round (by simpa using hevents) hpre hf
        have hserved := Digest.line_inj.1 houtput
        have hgot := follows_digested he hnow hf
        rw [Delivery.landed_of_complete whole] at hgot
        refine ⟨[], b, d, c, e, hbracketed opening, ?_, ?_, ?_⟩
        · simp [he, digested, removed, IsReceive]
        · rw [← hgot, hbefore]
          rfl
        · rw [← hgot, hserved]
          rfl
  | redone after h hrest ih =>
    obtain ⟨file, d, b, c, e, now, htimeline, -, -, hafter, he, hf⟩ :=
      h.follows_changed hevents hpre hf
    -- The digest behind this transfer is the one before the next.
    obtain ⟨a', b', d', c', e', hbracketed, hlast, hfirst, hsecond⟩ :=
      ih hresult _ he (not_receive_redo file _) hf hafter
    refine ⟨.happened (v.probed artifact opening) ::
      (b ++ .happened (v.received session artifact (.ok d)) :: c) ++ a', b', d', c', e',
      ?_, hlast, ?_, ?_⟩
    · simpa [htimeline] using hbracketed.behind (.happened (v.probed artifact opening) ::
        (b ++ .happened (v.received session artifact (.ok d)) :: c))
    · simpa [served, served_append] using hfirst
    · simpa [served, served_append] using hsecond

/-- Contents have digests of their own: the digest is the same only if nothing is replaced. -/
theorem unreplaced_of_same {others : List Bytes}
    (hnodup : ((held :: (replacementsOf timeline ++ others)).map digestOf).Nodup)
    (h : digestOf (served held timeline) = digestOf held) : replacementsOf timeline = [] := by
  by_contra hne
  have hmem : digestOf (served held timeline) ∈ (replacementsOf timeline ++ others).map digestOf :=
    List.mem_map_of_mem (List.mem_append_left others (served_mem hne))
  rw [h] at hmem
  exact (List.nodup_cons.1 hnodup).1 hmem

theorem nodup_served {others : List Bytes}
    (hnodup : ((held :: (replacementsOf timeline ++ others)).map digestOf).Nodup) :
    ((served held timeline :: others).map digestOf).Nodup := by
  by_cases hnone : replacementsOf timeline = []
  · rw [served_of_unreplaced hnone]
    simpa [hnone] using hnodup
  · rw [List.map_cons, List.map_append, List.nodup_cons, List.nodup_append] at hnodup
    obtain ⟨-, -, hothers, hdisjoint⟩ := hnodup
    refine List.nodup_cons.2 ⟨fun hmem => ?_, hothers⟩
    exact hdisjoint _ (List.mem_map_of_mem (served_mem hnone)) _ hmem rfl

/-- If nothing fails and every replacement has a digest of its own, there are repetitions enough for
as many replacements. -/
theorem Settled.tolerant {redos : Nat} {result : Except ProbeError Bool}
    (h : v.Settled session remote artifact redos before events result)
    (opening : Except ExecError String) {post : List Event}
    (hevents : eventsOf timeline = pre ++ (events ++ post))
    (hpre : ∀ event ∈ pre, ¬IsReceive event ∧ ¬IsExec event)
    (hf : Follows (Site.Step v artifact digestOf) ⟨held, files⟩ timeline last)
    (hbefore : before = digestOf held)
    (hnodup : ((held :: replacementsOf timeline).map digestOf).Nodup)
    (hcount : (replacementsOf timeline).length ≤ redos)
    (hfresh : ∀ a b d c e,
      Bracketed v artifact (.happened (v.probed artifact opening) :: timeline) a b d c e →
        replacementsOf (b ++ c) = [] → d.content = served held a)
    (hfine : ∀ event ∈ eventsOf timeline, ¬Failed event) : result = .ok true := by
  induction h generalizing timeline pre held files opening with
  | failed e h =>
    obtain ⟨event, hmem, hfailed⟩ := h.failed
    exact absurd hfailed (hfine event (by simp [hevents, hmem]))
  | ended equal h =>
    cases h with
    | filed tag h =>
      cases h with
      | equal d whole => rfl
      | unequal d got entry whole hne =>
        obtain ⟨b, c, e, now, -, hreplacements, hbracketed, houtput, he, hnow, hf⟩ :=
          follows_round (by simpa using hevents) hpre hf
        have hgot := follows_digested he hnow hf
        have hserved : digestOf (served held (b ++ c)) = digestOf held :=
          (Digest.line_inj.1 houtput).symm.trans hbefore
        rw [hreplacements] at hnodup
        have hcontent : d.content = held :=
          hfresh [] b d c e (hbracketed opening) (unreplaced_of_same hnodup hserved)
        rw [Delivery.landed_of_complete whole, hcontent, ← hbefore] at hgot
        exact absurd hgot hne
  | exhausted after h =>
    obtain ⟨file, d, b, c, e, now, htimeline, hreplacements, hne, hafter, he, hf⟩ :=
      h.follows_changed hevents hpre hf
    rw [hreplacements, List.length_append] at hcount
    have hnone : replacementsOf (b ++ c) = [] := List.length_eq_zero_iff.1 (by omega)
    rw [served_of_unreplaced hnone, ← hbefore] at hafter
    exact absurd hafter hne
  | redone after h hrest ih =>
    rw [List.append_assoc, List.cons_append] at hevents
    obtain ⟨file, d, b, c, e, now, htimeline, hreplacements, hne, hafter, he, hf⟩ :=
      h.follows_changed hevents hpre hf
    -- A digest that changed uses up a replacement, so the rest still has enough repetitions.
    have hsome : replacementsOf (b ++ c) ≠ [] := by
      intro hnone
      rw [served_of_unreplaced hnone, ← hbefore] at hafter
      exact hne hafter
    have hpos := List.length_pos_iff.2 hsome
    rw [hreplacements, List.length_append] at hcount
    rw [hreplacements] at hnodup
    refine ih (.ok (after.line artifact.path)) he (not_receive_redo file _) hf hafter ?_ (by omega)
      ?_ ?_
    · exact nodup_served hnodup
    · intro a' b' d' c' e' hbracketed hunreplaced
      have hlater := hbracketed.behind (.happened (v.probed artifact opening) ::
        (b ++ .happened (v.received session artifact (.ok d)) :: c))
      have hcontent := hfresh _ b' d' c' e' (by simpa [htimeline] using hlater) hunreplaced
      simpa [served, served_append] using hcontent
    · intro event hevent
      exact hfine event (by simp [htimeline, eventsOf_append, eventsOf, hevent])

/-- The first digest of the artifact is that of what the server then holds. -/
theorem follows_opening {connection : Event}
    (h : eventsOf timeline =
      connection :: v.probed artifact (.ok (before.line artifact.path)) :: events)
    (hf : Follows (Site.Step v artifact digestOf) ⟨initial, files⟩ timeline last) :
    ∃ past later now,
      timeline = past ++ .happened (v.probed artifact (.ok (before.line artifact.path))) :: later ∧
      eventsOf later = events ∧ before = digestOf (served initial past) ∧
      Follows (Site.Step v artifact digestOf) ⟨served initial past, now⟩ later last := by
  have hevents : eventsOf timeline =
      [connection] ++ v.probed artifact (.ok (before.line artifact.path)) :: events := h
  obtain ⟨past, later, _, now, htimeline, -, hlater, -, honest, -, hf⟩ := follows_split hevents hf
  exact ⟨past, later, now, htimeline, hlater, Digest.line_inj.1 (honest.probed _ rfl), hf⟩

theorem Verified.sound {value : Bool} (h : v.Verified remote artifact events value)
    (htrue : value = true) (hevents : eventsOf timeline = events)
    (hf : Follows (Site.Step v artifact digestOf) ⟨initial, files⟩ timeline last) :
    ∃ a b d c e, Bracketed v artifact timeline a b d c e ∧
      (∀ event ∈ eventsOf e, ¬IsReceive event) ∧
      digestOf d.content = digestOf (served initial a) ∧
      digestOf d.content = digestOf (served initial (a ++ b ++ c)) := by
  cases h with
  | unconnected e => cases htrue
  | unprobed session reply entry e h => cases htrue
  | rejected session before e h => cases htrue
  | @judged events session before equal h =>
    obtain ⟨past, later, now, rfl, hlater, hbefore, hf⟩ := follows_opening hevents hf
    rw [← List.nil_append events] at hlater
    obtain ⟨a, b, d, c, e, hbracketed, hlast, hfirst, hsecond⟩ :=
      h.sound (congrArg _ htrue) (.ok (before.line artifact.path)) hlater (by simp) hf hbefore
    refine ⟨past ++ a, b, d, c, e, hbracketed.behind past, hlast, ?_, ?_⟩
    · rw [served_append]
      exact hfirst
    · rw [List.append_assoc, List.append_assoc, served_append, ← List.append_assoc]
      exact hsecond

theorem Settled.tolerant_behind {connection : Event} {result : Except ProbeError Bool}
    {post : List Event} (h : v.Settled session remote artifact v.maxRedos before events result)
    (hevents : eventsOf timeline =
      connection :: v.probed artifact (.ok (before.line artifact.path)) :: (events ++ post))
    (hf : Follows (Site.Step v artifact digestOf) ⟨initial, files⟩ timeline last)
    (ht : Tolerable v artifact digestOf initial timeline) : result = .ok true := by
  obtain ⟨past, later, now, rfl, hlater, hbefore, hf⟩ := follows_opening hevents hf
  have hdistinct := ht.distinct
  have hfew := ht.few
  simp only [replacementsOf_append, replacementsOf, List.length_append] at hdistinct hfew
  rw [← List.nil_append (events ++ post)] at hlater
  refine h.tolerant (.ok (before.line artifact.path)) hlater (by simp) hf hbefore
    (nodup_served hdistinct) (by omega) ?_ ?_
  · intro a b d c e hbracketed hunreplaced
    rw [ht.faithful _ b d c e (hbracketed.behind past) hunreplaced, served_append]
  · intro event hevent
    exact ht.fine event (by simp [eventsOf_append, eventsOf, hevent])

theorem Verified.tolerant {value : Bool} (h : v.Verified remote artifact events value)
    (hevents : eventsOf timeline = events)
    (hf : Follows (Site.Step v artifact digestOf) ⟨initial, files⟩ timeline last)
    (ht : Tolerable v artifact digestOf initial timeline) : value = true := by
  cases h with
  | unconnected e =>
    exact absurd ⟨e, rfl⟩ (ht.fine (connected remote (.error e)) (by simp [hevents]))
  | unprobed session reply entry e h =>
    exact absurd ⟨e, h⟩ (ht.fine (v.probed artifact reply) (by simp [hevents]))
  | @judged events session before equal h =>
    rw [← List.append_nil events] at hevents
    exact Except.ok.inj (h.tolerant_behind hevents hf ht)
  | rejected session before e h =>
    cases h.tolerant_behind hevents hf ht

/-- A verification while the server replaces the artifact at any moments. If it succeeds, what was
received last has the digest of what the server held right before and right after; and it succeeds
if the replacements can be borne. -/
theorem verifyEndpoint_amid_replacements (v : Verifier) (remote : String) (artifact : Artifact)
    (digestOf : Bytes → Digest) {σ : Type} (answer : (r : Request) → σ → Reply r × σ) (state : σ)
    (timeline : List Moment) (initial : Bytes) (files : Files) (last : Site)
    (hevents : eventsOf timeline = ((v.verifyEndpoint remote artifact).run answer state).events)
    (hlast : Follows (Site.Step v artifact digestOf) ⟨initial, files⟩ timeline last) :
    let value := ((v.verifyEndpoint remote artifact).run answer state).value
    (value = true → ∃ a b d c e, Bracketed v artifact timeline a b d c e ∧
      (∀ event ∈ eventsOf e, ¬IsReceive event) ∧
      digestOf d.content = digestOf (served initial a) ∧
      digestOf d.content = digestOf (served initial (a ++ b ++ c))) ∧
    (Tolerable v artifact digestOf initial timeline → value = true) := by
  have h := (v.verifyEndpoint_always remote artifact).run answer state
  exact ⟨fun htrue => h.sound htrue hevents hlast, h.tolerant hevents hlast⟩

/-- Every receive delivers what the server then holds. -/
def DeliversHeld (initial : Bytes) : List Moment → Prop
  | [] => True
  | .happened event :: rest =>
    (∀ content, delivered? event = some content → content = initial) ∧ DeliversHeld initial rest
  | .replaced content :: rest => DeliversHeld content rest

theorem DeliversHeld.behind {before after : List Moment}
    (h : DeliversHeld initial (before ++ after)) : DeliversHeld (served initial before) after := by
  induction before generalizing initial with
  | nil => exact h
  | cons moment rest ih =>
    cases moment with
    | replaced content => exact ih h
    | happened event => exact ih h.2

/-- A server that delivers what it holds does so also while nothing is replaced. -/
theorem DeliversHeld.faithful {a b c e : List Moment} {d : Delivery}
    (h : DeliversHeld initial timeline) (hb : Bracketed v artifact timeline a b d c e)
    (hunreplaced : replacementsOf (b ++ c) = []) : d.content = served initial a := by
  obtain ⟨⟨session, first, second, rfl⟩, -⟩ := hb
  rw [replacementsOf_append, List.append_eq_nil_iff] at hunreplaced
  have hreceived := h.behind.2.behind.1 d.content rfl
  rwa [served_of_unreplaced hunreplaced.1] at hreceived

/-! A server that replaces an artifact once, behind the first receive. -/

section Once
variable (digestOf : Bytes → Digest) (old new : Bytes)

def probeOf (content : Bytes) : Moment :=
  .happened (sampleVerifier.probed sampleArtifact
    (.ok ((digestOf content).line sampleArtifact.path)))

def transferOf (content : Bytes) : List Moment :=
  [.happened (sampleVerifier.created sampleArtifact (some "Hk3vQ9")),
    .happened (sampleVerifier.received ⟨"10.92.100.60"⟩ sampleArtifact (.ok { content })),
    .happened (written sampleFile { content } (.ok ()))]

def timelineOnce : List Moment :=
  [.happened (connected "10.92.100.60" (.ok ⟨"10.92.100.60"⟩)), probeOf digestOf old] ++
  transferOf old ++
  [.replaced new, probeOf digestOf new, .happened (removed sampleFile),
    .happened (.logged (sampleVerifier.redoEntry "10.92.100.60" sampleArtifact 0))] ++
  transferOf new ++
  [probeOf digestOf new,
    .happened (sampleVerifier.digested sampleFile (.ok ((digestOf new).line sampleFile))),
    .happened (removed sampleFile)]

theorem eventsOf_timelineOnce (hne : digestOf new ≠ digestOf old) :
    eventsOf (timelineOnce digestOf old new) =
      ((sampleVerifier.verifyEndpoint "10.92.100.60" sampleArtifact).run
        (replacedOnce digestOf old new 2).answer Tally.zero).events :=
  (events_replacedOnce digestOf old new hne).symm

theorem follows_timelineOnce : ∃ last,
    Follows (Site.Step sampleVerifier sampleArtifact digestOf) ⟨old, fun _ => none⟩
      (timelineOnce digestOf old new) last := by
  have hsource : sampleArtifact.source ≠ .host := by decide
  have htransfer (held content : Bytes) (files : Files) (later : List Moment)
      (hfree : files sampleFile = none)
      (hlater : ∃ last, Follows (Site.Step sampleVerifier sampleArtifact digestOf)
        ⟨held, Function.update files sampleFile (some content)⟩ later last) :
      ∃ last, Follows (Site.Step sampleVerifier sampleArtifact digestOf)
        ⟨held, files⟩ (transferOf content ++ later) last := by
    have hwritten : Files.Step (Function.update files sampleFile (some []))
        (written sampleFile { content } (.ok ()))
        (Function.update files sampleFile (some content)) := by
      refine ⟨[], Function.update_self .., ?_⟩
      rw [Function.update_idem, overwrite_nil]
      rfl
    refine exists_follows_happened (honest_of_not_exec id) ⟨hfree, rfl⟩ ?_
    refine exists_follows_happened (honest_of_not_exec id) rfl ?_
    exact exists_follows_happened (honest_of_not_exec id) hwritten hlater
  refine exists_follows_happened (honest_of_not_exec id) rfl ?_
  refine exists_follows_happened (honest_probed hsource) rfl ?_
  refine htransfer _ _ _ _ rfl ?_
  refine exists_follows_replaced ?_
  refine exists_follows_happened (honest_probed hsource) rfl ?_
  refine exists_follows_happened (honest_of_not_exec id) rfl ?_
  refine exists_follows_happened (honest_of_not_exec id) rfl ?_
  refine htransfer _ _ _ _ (by simp) ?_
  refine exists_follows_happened (honest_probed hsource) rfl ?_
  refine exists_follows_happened (honest_digested hsource (by simp)) rfl ?_
  refine exists_follows_happened (honest_of_not_exec id) rfl ?_
  exact ⟨_, rfl⟩

theorem tolerable_timelineOnce (hne : digestOf new ≠ digestOf old) :
    Tolerable sampleVerifier sampleArtifact digestOf old (timelineOnce digestOf old new) := by
  have hdelivers : DeliversHeld old (timelineOnce digestOf old new) := by
    simp [DeliversHeld, timelineOnce, transferOf, probeOf, delivered?, connected, probed, created,
      received, written, digested, removed]
  have hreplacements : replacementsOf (timelineOnce digestOf old new) = [new] := rfl
  refine ⟨?_, ?_, Nat.le_refl 1, fun _ _ _ _ _ => hdelivers.faithful⟩
  · simp [eventsOf, timelineOnce, transferOf, probeOf, reading_line]
  · simp [hreplacements, hne.symm]

end Once

theorem verifyEndpoint_amid_one_replacement :
    ((sampleVerifier.verifyEndpoint "10.92.100.60" sampleArtifact).run
      (replacedOnce Rehearsal.Md5.digestOf [1] [2] 2).answer Tally.zero).value = true ∧
    ∃ a b d c e, Bracketed sampleVerifier sampleArtifact
        (timelineOnce Rehearsal.Md5.digestOf [1] [2]) a b d c e ∧
      (∀ event ∈ eventsOf e, ¬IsReceive event) ∧
      Rehearsal.Md5.digestOf d.content = Rehearsal.Md5.digestOf (served [1] a) ∧
      Rehearsal.Md5.digestOf d.content = Rehearsal.Md5.digestOf (served [1] (a ++ b ++ c)) := by
  have hne : Rehearsal.Md5.digestOf [2] ≠ Rehearsal.Md5.digestOf [1] := by decide +kernel
  obtain ⟨last, hlast⟩ := follows_timelineOnce Rehearsal.Md5.digestOf [1] [2]
  obtain ⟨hsound, htolerant⟩ := verifyEndpoint_amid_replacements sampleVerifier "10.92.100.60"
    sampleArtifact Rehearsal.Md5.digestOf _ Tally.zero _ [1] (fun _ => none) last
    (eventsOf_timelineOnce Rehearsal.Md5.digestOf [1] [2] hne) hlast
  have htrue := htolerant (tolerable_timelineOnce Rehearsal.Md5.digestOf [1] [2] hne)
  exact ⟨htrue, hsound htrue⟩

end Verifier
end ClusterHealth.Transfer
