import ClusterHealth.Checks.BootArtifacts
import ClusterHealth.Proofs.Digest
import ClusterHealth.Proofs.Yields

/-! What has to be in order before artifacts are transferred, as replies to requests, and that
everything before the transfers goes well with exactly these replies. -/
namespace ClusterHealth.Checks
open Procedure

/-- It runs or has ended well, and none of its containers waits. -/
def Healthy (pod : Pod) : Prop :=
  (pod.phase = .running ∨ pod.phase = .succeeded) ∧ pod.waiting = []

theorem podHealthy_yields {pod : Pod} {events : List Event} :
    (podHealthy pod none).Yields events true ↔ Healthy pod ∧ events = [] := by
  have hwaiting : unexpectedlyWaiting pod none = pod.waiting := by simp [unexpectedlyWaiting]
  unfold podHealthy Healthy
  split
  · rename_i hphase
    simp only [yields_both_true, yields_pure, yields_forAll_true, hwaiting]
    cases pod.waiting with
    | nil => simp [InTurn, hphase]
    | cons container rest => simp [InTurn]
  · rename_i hphase
    simp [hphase]

theorem podsHealthy_yields {pods : List Pod} {events : List Event} :
    (podsHealthy pods).Yields events true ↔ (∀ pod ∈ pods, Healthy pod) ∧ events = [] := by
  unfold podsHealthy
  rw [yields_forAll_true]
  simp only [podHealthy_yields]
  exact inTurn_nil_iff

theorem exactly_one_admits {pod : Pod} {others : List Pod} :
    (PodCount.exactly 1).admits (pod :: others).length ↔ others = [] := by
  simp [PodCount.exactly, PodCount.admits]

theorem atLeast_one_admits {pods : List Pod} :
    (PodCount.atLeast 1).admits pods.length ↔ pods ≠ [] := by
  cases pods <;> simp [PodCount.atLeast, PodCount.admits]

theorem podsByName_yields {nspace start : String} {count : PodCount} {pods : List Pod}
    {events : List Event} :
    (podsByName nspace start count).Yields events (pods, true) ↔
      events = [.exchanged (.listPods nspace start) (.ok pods)] ∧ count.admits pods.length := by
  constructor
  · intro h
    obtain ⟨reply, rest, rfl, hrest⟩ := yields_request_bind.1 h
    cases reply with
    | error e =>
      obtain ⟨_, -, -, hvalue⟩ := hrest
      cases hvalue
    | ok found =>
      dsimp only at hrest
      split at hrest
      · rename_i hcount
        obtain ⟨rfl, hvalue⟩ := hrest
        cases hvalue
        exact ⟨rfl, hcount⟩
      · obtain ⟨_, _, _, -, -, -, hvalue⟩ := yields_bind.1 hrest
        cases hvalue
  · intro h
    obtain ⟨rfl, hcount⟩ := h
    refine yields_request_bind.2 ⟨.ok pods, [], rfl, ?_⟩
    dsimp only
    rw [if_pos hcount]
    exact ⟨rfl, rfl⟩

theorem claimBound_yields {nspace name : String} {events : List Event} :
    (claimBound nspace name).Yields events true ↔
      events = [.exchanged (.claimPhase nspace name) (.ok "Bound")] := by
  constructor
  · intro h
    obtain ⟨reply, rest, rfl, hrest⟩ := yields_request_bind.1 h
    cases reply with
    | error e => exact absurd hrest yields_reject_true
    | ok phase =>
      dsimp only at hrest
      split at hrest
      · rename_i hphase
        obtain ⟨rfl, -⟩ := hrest
        rw [hphase]
      · split at hrest
        · exact absurd hrest yields_reject_true
        · exact absurd hrest yields_reject_true
  · intro h
    subst h
    exact ⟨.ok "Bound", [], rfl, rfl, rfl⟩

namespace BootSettings
variable (s : BootSettings)

/-- `names` are those of the main artifact, which has to be named, and of the one for debugging, if
that has a name that is not blank. -/
def Supplies (arch : Architecture) (names : List String) : Prop :=
  ∃ main, s.mainArtifact arch = some main ∧ Text.blank main = false ∧
    names = main :: (s.debugArtifactOf arch).toList.filter (!Text.blank ·)

/-- There are architectures that are built for, and `build` has all of them in the order of their
names. -/
structure Builds (build : List (Architecture × List String)) : Prop where
  nonempty : build ≠ []
  architectures : build.map Prod.fst = [.aarch64, .x86].filter s.builds
  artifacts : ∀ item ∈ build, s.Supplies item.1 item.2

theorem artifactsFor_eq_ok {configMap : String} {arch : Architecture}
    {item : Architecture × List String} :
    s.artifactsFor configMap arch = .ok item ↔ item.1 = arch ∧ s.Supplies item.1 item.2 := by
  have hdebug : (named (s.debugArtifactOf arch)).toList =
      (s.debugArtifactOf arch).toList.filter (!Text.blank ·) := Option.toList_filter
  have hmain {main : String} : named (s.mainArtifact arch) = some main ↔
      s.mainArtifact arch = some main ∧ Text.blank main = false := by
    simp [named, Option.filter_eq_some_iff]
  unfold artifactsFor Supplies
  cases hname : named (s.mainArtifact arch) with
  | none =>
    simp only [reduceCtorEq, false_iff]
    rintro ⟨rfl, main, hsome, hblank, -⟩
    rw [hmain.2 ⟨hsome, hblank⟩] at hname
    cases hname
  | some main =>
    obtain ⟨hsome, hblank⟩ := hmain.1 hname
    simp only [Except.ok.injEq, hdebug]
    constructor
    · intro h
      subst h
      exact ⟨rfl, main, hsome, hblank, rfl⟩
    · intro h
      obtain ⟨rfl, _, hsome', -, hnames⟩ := h
      obtain rfl := Option.some.inj (hsome.symm.trans hsome')
      exact Prod.ext rfl hnames.symm

theorem mapM_artifactsFor_eq_ok {configMap : String} {archs : List Architecture}
    {items : List (Architecture × List String)} :
    archs.mapM (s.artifactsFor configMap) = .ok items ↔
      items.map Prod.fst = archs ∧ ∀ item ∈ items, s.Supplies item.1 item.2 := by
  induction archs generalizing items with
  | nil =>
    constructor
    · intro h
      cases h
      exact ⟨rfl, List.forall_mem_nil _⟩
    · intro h
      rw [List.map_eq_nil_iff.1 h.1]
      rfl
  | cons arch rest ih =>
    constructor
    · intro h
      rw [List.mapM_cons] at h
      cases hfirst : s.artifactsFor configMap arch with
      | error e =>
        rw [hfirst] at h
        cases h
      | ok first =>
        cases hothers : rest.mapM (s.artifactsFor configMap) with
        | error e =>
          rw [hfirst, hothers] at h
          cases h
        | ok others =>
          rw [hfirst, hothers] at h
          cases h
          obtain ⟨rfl, hsupplies⟩ := s.artifactsFor_eq_ok.1 hfirst
          obtain ⟨rfl, hrest⟩ := ih.1 hothers
          exact ⟨rfl, List.forall_mem_cons.2 ⟨hsupplies, hrest⟩⟩
    · intro h
      obtain ⟨harchs, hsupplies⟩ := h
      obtain ⟨first, others, rfl, rfl, rfl⟩ := List.map_eq_cons_iff.1 harchs
      obtain ⟨hfirst, hothers⟩ := List.forall_mem_cons.1 hsupplies
      rw [List.mapM_cons, s.artifactsFor_eq_ok.2 ⟨rfl, hfirst⟩, ih.2 ⟨rfl, hothers⟩]
      rfl

theorem artifacts_eq_ok {configMap : String} {build : List (Architecture × List String)} :
    s.artifacts configMap = .ok build ↔
      build.map Prod.fst = [.aarch64, .x86].filter s.builds ∧
        ∀ item ∈ build, s.Supplies item.1 item.2 := by
  have harchs : (build.reverse.map Prod.fst = Architecture.all.filter s.builds) ↔
      build.map Prod.fst = [.aarch64, .x86].filter s.builds := by
    have hall : Architecture.all = [.aarch64, .x86].reverse := rfl
    rw [hall, List.filter_reverse, List.map_reverse, List.reverse_inj]
  have hmap : s.artifacts configMap = .ok build ↔
      (Architecture.all.filter s.builds).mapM (s.artifactsFor configMap) = .ok build.reverse := by
    unfold artifacts
    cases (Architecture.all.filter s.builds).mapM (s.artifactsFor configMap) with
    | error e => simp [Except.map]
    | ok items => simp [Except.map, List.reverse_eq_iff]
  rw [hmap, mapM_artifactsFor_eq_ok, harchs]
  simp only [List.mem_reverse]

end BootSettings

namespace BootArtifacts
variable (b : BootArtifacts)

/-- An artifact is listed and digested in a container. -/
def Readable (target : Target) (name : String) (events : List Event) : Prop :=
  ∃ listing digest,
    events = [
      .exchanged (.exec target "ls" ["-al", Transfer.pathIn b.settings.artifactDir name])
        (.ok listing),
      .exchanged (.exec target b.verifier.digestCommand
          [Transfer.pathIn b.settings.artifactDir name])
        (.ok (Digest.line digest (Transfer.pathIn b.settings.artifactDir name)))]

/-- The one pod of an architecture is healthy, and its container answers and has all artifacts. -/
def BuilderReady (arch : Architecture) (builder : Builder) (events : List Event) : Prop :=
  ∃ stem pod date readings,
    b.settings.podStems.lookup arch.name = some stem ∧
    pod.name = builder.pod ∧ Healthy pod ∧
    InTurn (b.Readable (b.container builder.pod)) builder.artifacts readings ∧
    events =
      .exchanged (.listPods b.nspace stem) (.ok [pod]) ::
      .exchanged (.exec (b.container builder.pod) "date" []) (.ok date) :: readings

/-- Everything before the transfers is in order: the settings say what the builders build, all
builders are ready, and there are servers, which are healthy and have their storage. -/
inductive Ready (b : BootArtifacts) : List (Architecture × Builder) → List Event → Prop
  | intro {text : String} {settings : BootSettings} {builders : List (Architecture × Builder)}
      {judged : List Event} {servers : List Pod}
      (decoded : BootSettings.parse? text = some settings)
      (builds : settings.Builds (builders.map fun item => (item.1, item.2.artifacts)))
      (ready : InTurn (fun item => b.BuilderReady item.1 item.2) builders judged)
      (some_server : servers ≠ []) (healthy : ∀ pod ∈ servers, Healthy pod) :
      Ready b builders
        (.exchanged (.configMapField b.nspace b.settings.settingsConfigMap b.settings.settingsKey)
            (.ok (some text)) ::
          (judged ++ [
            .exchanged (.listPods b.nspace "cray-tftp") (.ok servers),
            .exchanged (.claimPhase b.nspace b.settings.sharedClaim) (.ok "Bound")]))

variable {b} {events : List Event}

theorem readDigest_yields {command path : String} {target : Target} {digest : Digest} :
    (Transfer.readDigest command target path).Yields events (.ok digest) ↔
      events = [.exchanged (.exec target command [path]) (.ok (digest.line path))] := by
  constructor
  · intro h
    obtain ⟨reply, rest, rfl, hrest⟩ := yields_request_bind.1 h
    cases reply with
    | error e =>
      obtain ⟨_, -, -, hvalue⟩ := hrest
      cases hvalue
    | ok output =>
      dsimp only at hrest
      split at hrest
      · obtain ⟨_, -, -, hvalue⟩ := hrest
        cases hvalue
      · rename_i taken houtput
        obtain ⟨rfl, hvalue⟩ := hrest
        cases hvalue
        rw [Digest.ofOutput_eq_ok.1 houtput]
  · intro h
    subst h
    refine yields_request_bind.2 ⟨.ok (digest.line path), [], rfl, ?_⟩
    dsimp only
    rw [Digest.ofOutput_line]
    exact ⟨rfl, rfl⟩

theorem artifactReady_yields {target : Target} {name : String} :
    (b.artifactReady target name).Yields events true ↔ b.Readable target name events := by
  constructor
  · intro h
    obtain ⟨listed, rest, rfl, hrest⟩ := yields_request_bind.1 h
    cases listed with
    | error e => exact absurd hrest yields_reject_true
    | ok listing =>
      obtain ⟨first, read, second, rfl, hread, rfl, hvalue⟩ := yields_bind.1 hrest
      cases read with
      | error e => cases hvalue
      | ok digest =>
        rw [readDigest_yields] at hread
        subst hread
        exact ⟨listing, digest, rfl⟩
  · intro h
    obtain ⟨listing, digest, rfl⟩ := h
    refine yields_request_bind.2 ⟨.ok listing, _, rfl, ?_⟩
    refine yields_bind.2 ⟨_, .ok digest, [], (List.append_nil _).symm, ?_, rfl, rfl⟩
    exact readDigest_yields.2 rfl

theorem containerReady_yields {pod : String} {artifacts : List String} :
    (b.containerReady pod artifacts).Yields events true ↔
      ∃ date readings, InTurn (b.Readable (b.container pod)) artifacts readings ∧
        events = .exchanged (.exec (b.container pod) "date" []) (.ok date) :: readings := by
  have hartifacts (readings : List Event) :
      (forAll artifacts (b.artifactReady (b.container pod))).Yields readings true ↔
        InTurn (b.Readable (b.container pod)) artifacts readings := by
    simp only [yields_forAll_true, artifactReady_yields]
  constructor
  · intro h
    obtain ⟨reply, readings, rfl, hrest⟩ := yields_request_bind.1 h
    cases reply with
    | error e => exact absurd hrest yields_reject_true
    | ok date => exact ⟨date, readings, (hartifacts readings).1 hrest, rfl⟩
  · intro h
    obtain ⟨date, readings, hreadings, rfl⟩ := h
    exact yields_request_bind.2 ⟨.ok date, readings, rfl, (hartifacts readings).2 hreadings⟩

theorem loadSettings_yields {settings : BootSettings} :
    b.loadSettings.Yields events (.ok settings) ↔
      ∃ text, BootSettings.parse? text = some settings ∧
        events = [.exchanged
          (.configMapField b.nspace b.settings.settingsConfigMap b.settings.settingsKey)
          (.ok (some text))] := by
  constructor
  · intro h
    obtain ⟨reply, rest, rfl, hrest⟩ := yields_request_bind.1 h
    rcases reply with e | _ | text
    · cases hrest.2
    · cases hrest.2
    · obtain ⟨rfl, hvalue⟩ := hrest
      refine ⟨text, ?_, rfl⟩
      unfold BootSettings.parse at hvalue
      split at hvalue
      · cases hvalue
        assumption
      · cases hvalue
  · intro h
    obtain ⟨text, hparse, rfl⟩ := h
    refine yields_request_bind.2 ⟨.ok (some text), [], rfl, ?_⟩
    dsimp only
    rw [BootSettings.parse, hparse]
    exact ⟨rfl, rfl⟩

theorem expected_yields {build : List (Architecture × List String)} :
    b.expected.Yields events (build, true) ↔
      ∃ text settings, BootSettings.parse? text = some settings ∧ settings.Builds build ∧
        events = [.exchanged
          (.configMapField b.nspace b.settings.settingsConfigMap b.settings.settingsKey)
          (.ok (some text))] := by
  constructor
  · intro h
    obtain ⟨first, loaded, second, rfl, hload, hrest⟩ := yields_bind.1 h
    dsimp only at hrest
    split at hrest
    · obtain ⟨_, -, -, hvalue⟩ := hrest
      cases hvalue
    · obtain ⟨_, -, -, hvalue⟩ := hrest
      cases hvalue
    · rename_i artifacts hnonempty hartifacts
      obtain ⟨rfl, hvalue⟩ := hrest
      cases hvalue
      cases loaded with
      | error e => cases hartifacts
      | ok settings =>
        obtain ⟨text, hparse, rfl⟩ := loadSettings_yields.1 hload
        obtain ⟨harchs, hsupplies⟩ := settings.artifacts_eq_ok.1 hartifacts
        exact ⟨text, settings, hparse, ⟨hnonempty, harchs, hsupplies⟩, rfl⟩
  · intro h
    obtain ⟨text, settings, hparse, hbuilds, rfl⟩ := h
    have hartifacts : settings.artifacts b.settings.settingsConfigMap = .ok build :=
      settings.artifacts_eq_ok.2 ⟨hbuilds.architectures, hbuilds.artifacts⟩
    refine yields_bind.2 ⟨_, .ok settings, [], rfl, loadSettings_yields.2 ⟨text, hparse, rfl⟩, ?_⟩
    dsimp only [Except.bind]
    rw [hartifacts]
    cases build with
    | nil => exact absurd rfl hbuilds.nonempty
    | cons item rest => exact ⟨rfl, rfl⟩

theorem builder_yields {arch : Architecture} {artifacts : List String} {found : Option Builder} :
    (b.builder arch artifacts).Yields events (found, true) ↔
      ∃ builder, found = some builder ∧ builder.artifacts = artifacts ∧
        b.BuilderReady arch builder events := by
  unfold builder
  constructor
  · intro h
    split at h
    · obtain ⟨_, -, -, hvalue⟩ := h
      cases hvalue
    · rename_i stem hstem
      obtain ⟨listed, ⟨pods, counted⟩, _, rfl, hpods, hjudged⟩ := yields_bind.1 h
      obtain ⟨noted, healthy, _, rfl, hhealthy, hrest⟩ := yields_bind.1 hjudged
      split at hrest
      · rename_i pod others
        obtain ⟨judged, ready, _, rfl, hready, rfl, hvalue⟩ := yields_bind.1 hrest
        obtain ⟨rfl, hpassed⟩ := Prod.mk.inj hvalue
        obtain ⟨rfl, rfl⟩ := Bool.and_eq_true_iff.1 hpassed.symm
        obtain ⟨rfl, hone⟩ := podsByName_yields.1 hpods
        obtain ⟨hpod, rfl⟩ := podsHealthy_yields.1 hhealthy
        obtain ⟨date, readings, hreadings, rfl⟩ := containerReady_yields.1 hready
        obtain rfl := exactly_one_admits.1 hone
        exact ⟨⟨pod.name, artifacts⟩, rfl, rfl, stem, pod, date, readings, hstem, rfl,
          hpod pod List.mem_cons_self, hreadings, by simp⟩
      · obtain ⟨-, hvalue⟩ := hrest
        cases hvalue
  · intro h
    obtain ⟨builder, rfl, rfl, hready⟩ := h
    obtain ⟨stem, pod, date, readings, hstem, hname, hhealthy, hreadings, rfl⟩ := hready
    rw [hstem]
    refine yields_bind.2 ⟨_, ([pod], true), _, rfl, podsByName_yields.2 ⟨rfl, rfl⟩, ?_⟩
    refine yields_bind.2 ⟨[], true, _, rfl, podsHealthy_yields.2 ⟨by simpa using hhealthy, rfl⟩, ?_⟩
    refine yields_bind.2 ⟨_, true, [], (List.append_nil _).symm, ?_, ?_⟩
    · exact containerReady_yields.2 ⟨date, readings, hname ▸ hreadings, hname ▸ rfl⟩
    · exact ⟨rfl, by rw [hname]; rfl⟩

theorem builders_yields {build : List (Architecture × List String)} {found : List Builder} :
    (b.builders build).Yields events (found, true) ↔
      ∃ builders : List (Architecture × Builder),
        found = builders.map Prod.snd ∧
        build = builders.map (fun item => (item.1, item.2.artifacts)) ∧
        InTurn (fun item => b.BuilderReady item.1 item.2) builders events := by
  induction build generalizing found events with
  | nil =>
    constructor
    · intro h
      obtain ⟨rfl, hvalue⟩ := h
      cases hvalue
      exact ⟨[], rfl, rfl, rfl⟩
    · intro h
      obtain ⟨builders, rfl, hbuild, hready⟩ := h
      obtain rfl := List.map_eq_nil_iff.1 hbuild.symm
      exact ⟨hready, rfl⟩
  | cons item rest ih =>
    constructor
    · intro h
      obtain ⟨first, ⟨found?, passed⟩, _, rfl, hfirst, hbehind⟩ := yields_bind.1 h
      obtain ⟨second, ⟨others, allPassed⟩, _, rfl, hsecond, rfl, hvalue⟩ := yields_bind.1 hbehind
      obtain ⟨rfl, hpassed⟩ := Prod.mk.inj hvalue
      obtain ⟨rfl, rfl⟩ := Bool.and_eq_true_iff.1 hpassed.symm
      obtain ⟨builder, rfl, hartifacts, hready⟩ := builder_yields.1 hfirst
      obtain ⟨builders, rfl, rfl, hrest⟩ := ih.1 hsecond
      refine ⟨(item.1, builder) :: builders, rfl, ?_, first, second, ?_, hready, hrest⟩
      · rw [List.map_cons, hartifacts]
      · rw [List.append_nil]
    · intro h
      obtain ⟨builders, rfl, hbuild, hready⟩ := h
      obtain ⟨⟨arch, builder⟩, builders, rfl, rfl, rfl⟩ := List.map_eq_cons_iff.1 hbuild.symm
      obtain ⟨first, second, rfl, hfirst, hsecond⟩ := hready
      refine yields_bind.2 ⟨first, (some builder, true), second, rfl, ?_, ?_⟩
      · exact builder_yields.2 ⟨builder, rfl, rfl, hfirst⟩
      · exact yields_bind.2 ⟨second, (builders.map Prod.snd, true), [], (List.append_nil _).symm,
          ih.2 ⟨builders, rfl, rfl, hsecond⟩, rfl, rfl⟩

theorem serversOk_yields :
    b.serversOk.Yields events true ↔
      ∃ servers, servers ≠ [] ∧ (∀ pod ∈ servers, Healthy pod) ∧
        events = [.exchanged (.listPods b.nspace "cray-tftp") (.ok servers),
          .exchanged (.claimPhase b.nspace b.settings.sharedClaim) (.ok "Bound")] := by
  constructor
  · intro h
    obtain ⟨listed, ⟨servers, counted⟩, _, rfl, hservers, hbehind⟩ := yields_bind.1 h
    cases counted with
    | false =>
      have hclaim : (claimBound b.nspace b.settings.sharedClaim >>= fun bound =>
          (pure (false && bound) : Procedure Bool)).Yields _ true := hbehind
      obtain ⟨_, _, _, -, -, -, hvalue⟩ := yields_bind.1 hclaim
      cases hvalue
    | true =>
      obtain ⟨noted, healthy, _, rfl, hhealthy, hrest⟩ := yields_bind.1 hbehind
      obtain ⟨asked, bound, _, rfl, hbound, rfl, hvalue⟩ := yields_bind.1 hrest
      obtain ⟨rfl, rfl⟩ := Bool.and_eq_true_iff.1 hvalue.symm
      obtain ⟨rfl, hcount⟩ := podsByName_yields.1 hservers
      obtain ⟨hpods, rfl⟩ := podsHealthy_yields.1 hhealthy
      obtain rfl := claimBound_yields.1 hbound
      exact ⟨servers, atLeast_one_admits.1 hcount, hpods, rfl⟩
  · intro h
    obtain ⟨servers, hsome, hhealthy, rfl⟩ := h
    have hcount := atLeast_one_admits.2 hsome
    refine yields_bind.2 ⟨_, (servers, true), _, rfl, podsByName_yields.2 ⟨rfl, hcount⟩, ?_⟩
    refine yields_bind.2 ⟨[], true, _, rfl, podsHealthy_yields.2 ⟨hhealthy, rfl⟩, ?_⟩
    exact yields_bind.2 ⟨_, true, [], rfl, claimBound_yields.2 rfl, rfl, rfl⟩

end BootArtifacts
end ClusterHealth.Checks
