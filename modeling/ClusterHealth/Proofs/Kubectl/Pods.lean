import ClusterHealth.Kubectl.Objects
import ClusterHealth.Proofs.Json.Grammar
import ClusterHealth.Proofs.Json.Records
import ClusterHealth.Proofs.Text.Names
import ClusterHealth.Proofs.Text.Order

/-! What a listing of pods says about them. Reading it finds just the pods whose names begin as
asked, in the order of their names. -/
namespace ClusterHealth.Kubectl
open Json (Document Has HasOr MayHave MeansText MeansList MeansObject Record Written membersNamed
  record?_bind text?_of_means written_of_plain
  writtenKey_of_plain meansText_of_plain meansObject_of_plain)

namespace Manifest

/-- A variable, with a value unless that comes from elsewhere. -/
structure Variable where
  name : String
  value : Option String

structure Container where
  name : String
  env : List Variable

/-- A container with the reason that it waits for, if it waits. -/
structure Status where
  name : String
  waiting : Option String

end Manifest

/-- A pod as the cluster describes it. -/
structure Manifest where
  name : String
  phase : String
  statuses : List Manifest.Status
  containers : List Manifest.Container

namespace Manifest

def Variable.Shown : Document → Variable → Prop :=
  MeansObject fun members v => Has "name" MeansText members v.name ∧
    v.value.elim (membersNamed "value" members = []) (Has "value" MeansText members)

def Container.Shown : Document → Container → Prop :=
  MeansObject fun members c => Has "name" MeansText members c.name ∧
    HasOr "env" [] (MeansList Variable.Shown) members c.env

/-- What keeps a container waiting. -/
def ReasonShown : Document → String → Prop := MeansObject (HasOr "reason" "" MeansText)

def StateShown : Document → Option String → Prop := MeansObject (MayHave "waiting" ReasonShown)

def Status.Shown : Document → Status → Prop :=
  MeansObject fun members s => Has "name" MeansText members s.name ∧
    HasOr "state" none StateShown members s.waiting

def NameShown : Document → String → Prop := MeansObject (HasOr "name" "" MeansText)

def ContainersShown : Document → List Container → Prop :=
  MeansObject (HasOr "containers" [] (MeansList Container.Shown))

/-- A phase and the containers. -/
def StatusesShown : Document → String × List Status → Prop :=
  MeansObject fun members s => HasOr "phase" "" MeansText members s.1 ∧
    HasOr "containerStatuses" [] (MeansList Status.Shown) members s.2

def Shown : Document → Manifest → Prop :=
  MeansObject fun members m => HasOr "metadata" "" NameShown members m.name ∧
    HasOr "spec" [] ContainersShown members m.containers ∧
    HasOr "status" ("", []) StatusesShown members (m.phase, m.statuses)

/-- A listing of pods, as text. Parts that are not known may stand anywhere in it, and parts that
are as without them may be left out. -/
def Listed (text : String) (manifests : List Manifest) : Prop :=
  ∃ doc, Written (.value doc) text.toList ∧
    MeansObject (HasOr "items" [] (MeansList Shown)) doc manifests

def Variable.setting (v : Variable) : String × String := (v.name, v.value.getD "")

def Container.declared (c : Container) : ClusterHealth.Container :=
  ⟨c.name, c.env.map Variable.setting⟩

def Status.reason? (s : Status) : Option (String × String) := s.waiting.map (s.name, ·)

def pod (m : Manifest) : Pod :=
  ⟨m.name, .parse m.phase, m.statuses.filterMap Status.reason?, m.containers.map Container.declared⟩

end Manifest

open Manifest

theorem setVariable?_eq {doc : Document} {v : Variable} (h : v.Shown doc) :
    setVariable? doc = some v.setting := by
  have hor {members : List (String × Document)}
      (hvalue : v.value.elim (membersNamed "value" members = []) (Has "value" MeansText members)) :
      HasOr "value" "" MeansText members (v.value.getD "") := by
    cases hv : v.value with
    | none =>
      rw [hv] at hvalue
      exact .inr ⟨hvalue, rfl⟩
    | some value =>
      rw [hv] at hvalue
      exact .inl hvalue
  refine record?_bind h (fun members hm => ?_) fun members r hm hslots => ?_
  · obtain ⟨hname, hvalue⟩ := hm
    exact List.forall_mem_cons.2 ⟨hname.single, List.forall_mem_singleton.2 (hor hvalue).single⟩
  · obtain ⟨hname, hvalue⟩ := hm
    have hreadName := Record.required_eq (hslots "name" (by simp)) hname fun _ => text?_of_means
    have hreadValue :=
      Record.orElse_same (hslots "value" (by simp)) (hor hvalue) fun _ => text?_of_means
    rw [hreadName, hreadValue]
    rfl

theorem container?_eq {doc : Document} {c : Manifest.Container} (h : c.Shown doc) :
    container? doc = some c.declared := by
  refine record?_bind h (fun members hm => ?_) fun members r hm hslots => ?_
  · obtain ⟨hname, henv⟩ := hm
    exact List.forall_mem_cons.2 ⟨hname.single, List.forall_mem_singleton.2 henv.single⟩
  · obtain ⟨hname, henv⟩ := hm
    have hreadName := Record.required_eq (hslots "name" (by simp)) hname fun _ => text?_of_means
    have hreadEnv := Record.orElse_list (hslots "env" (by simp)) henv fun _ _ => setVariable?_eq
    rw [hreadName, hreadEnv]
    rfl

theorem containers?_eq {doc : Document} {containers : List Manifest.Container}
    (h : ContainersShown doc containers) :
    containers? doc = some (containers.map Container.declared) := by
  refine record?_bind h (fun members hm => ?_) fun members r hm hslots => ?_
  · exact List.forall_mem_singleton.2 hm.single
  · exact Record.orElse_list (hslots "containers" (by simp)) hm fun _ _ => container?_eq

/-- An object that is read for one text. -/
theorem text_field {name text : String} {doc : Document}
    (h : MeansObject (HasOr name "" MeansText) doc text) :
    ((doc.record? [name]).bind fun r => r.orElse name "" Document.text?) = some text := by
  refine record?_bind h (fun members hm => ?_) fun members r hm hslots => ?_
  · exact List.forall_mem_singleton.2 hm.single
  · exact Record.orElse_same (hslots name List.mem_cons_self) hm fun _ => text?_of_means

theorem waitingState?_eq {doc : Document} {waiting : Option String} (h : StateShown doc waiting) :
    waitingState? doc = some waiting := by
  refine record?_bind h (fun members hm => ?_) fun members r hm hslots => ?_
  · exact List.forall_mem_singleton.2 hm.single
  · exact Record.optional_eq (hslots "waiting" (by simp)) hm (fun _ _ => text_field) rfl

theorem containerStatus?_eq {doc : Document} {s : Status} (h : s.Shown doc) :
    containerStatus? doc = some (s.name, s.waiting) := by
  refine record?_bind h (fun members hm => ?_) fun members r hm hslots => ?_
  · obtain ⟨hname, hstate⟩ := hm
    exact List.forall_mem_cons.2 ⟨hname.single, List.forall_mem_singleton.2 hstate.single⟩
  · obtain ⟨hname, hstate⟩ := hm
    have hreadName := Record.required_eq (hslots "name" (by simp)) hname fun _ => text?_of_means
    have hreadState :=
      Record.orElse_same (hslots "state" (by simp)) hstate fun _ => waitingState?_eq
    rw [hreadName, hreadState]
    rfl

theorem podStatus?_eq {doc : Document} {phase : String} {statuses : List Status}
    (h : StatusesShown doc (phase, statuses)) :
    podStatus? doc = some ⟨phase, statuses.map fun s => (s.name, s.waiting)⟩ := by
  refine record?_bind h (fun members hm => ?_) fun members r hm hslots => ?_
  · obtain ⟨hphase, hstatuses⟩ := hm
    exact List.forall_mem_cons.2 ⟨hphase.single, List.forall_mem_singleton.2 hstatuses.single⟩
  · obtain ⟨hphase, hstatuses⟩ := hm
    have hreadPhase :=
      Record.orElse_same (hslots "phase" (by simp)) hphase fun _ => text?_of_means
    have hreadStatuses := Record.orElse_list (hslots "containerStatuses" (by simp)) hstatuses
      fun _ _ => containerStatus?_eq
    rw [hreadPhase, hreadStatuses]
    rfl

theorem pod?_eq {doc : Document} {m : Manifest} (h : m.Shown doc) : pod? doc = some m.pod := by
  refine record?_bind h (fun members hm => ?_) fun members r hm hslots => ?_
  · obtain ⟨hname, hcontainers, hstatus⟩ := hm
    exact List.forall_mem_cons.2 ⟨hname.single, List.forall_mem_cons.2 ⟨hcontainers.single,
      List.forall_mem_singleton.2 hstatus.single⟩⟩
  · obtain ⟨hname, hcontainers, hstatus⟩ := hm
    have hreadName := Record.orElse_same (hslots "metadata" (by simp)) hname fun _ => text_field
    have hreadContainers : r.orElse "spec" [] containers? =
        some (m.containers.map Container.declared) := by
      refine Record.orElse_eq (hslots "spec" (by simp)) hcontainers (fun _ => containers?_eq)
        fun hempty => ?_
      rw [hempty, List.map_nil]
    have hreadStatus : r.orElse "status" {} podStatus? =
        some ⟨m.phase, m.statuses.map fun s => (s.name, s.waiting)⟩ := by
      refine Record.orElse_eq (hslots "status" (by simp)) hstatus (fun _ => podStatus?_eq)
        fun hempty => ?_
      rw [(Prod.mk.inj hempty).1, (Prod.mk.inj hempty).2, List.map_nil]
    rw [show r.orElse "metadata" "" objectName? = some m.name from hreadName, hreadContainers,
      hreadStatus]
    simp only [Option.bind_eq_bind, Option.bind_some, List.filterMap_map]
    rfl

theorem pods?_eq {doc : Document} {manifests : List Manifest}
    (h : MeansObject (HasOr "items" [] (MeansList Manifest.Shown)) doc manifests) :
    pods? doc = some (manifests.map Manifest.pod) := by
  refine record?_bind h (fun members hm => ?_) fun members r hm hslots => ?_
  · exact List.forall_mem_singleton.2 hm.single
  · exact Record.orElse_list (hslots "items" (by simp)) hm fun _ _ => pod?_eq

theorem decode_of_written {α : Type} {what text : String} {doc : Document} {value : α}
    {read : Document → Option α} (hdoc : Written (.value doc) text.toList)
    (hread : read doc = some value) : decode what text read = .ok value := by
  rw [decode, Json.parse?_eq_some_iff.2 hdoc, Option.bind_some, hread]

open Text (byName)

/-- Manifests whose names begin with `start`, by name. -/
def selected (start : String) (manifests : List Manifest) : List Manifest :=
  (manifests.filter (Text.startsWith ·.name start)).mergeSort (byName Manifest.name)

theorem podsOfJson_listed {text : String} {manifests : List Manifest} (h : Listed text manifests)
    (start : String) :
    podsOfJson text start = .ok ((selected start manifests).map Manifest.pod) := by
  obtain ⟨doc, hdoc, hlisted⟩ := h
  have hsorted : (selected start manifests).map Manifest.pod =
      ((manifests.map Manifest.pod).filter (Text.startsWith ·.name start)).mergeSort inOrder := by
    rw [List.filter_map]
    exact List.map_mergeSort fun _ _ _ _ => rfl
  rw [podsOfJson, decode_of_written hdoc (pods?_eq hlisted), hsorted]
  rfl

theorem startsWith_of_append {text start more : String}
    (h : Text.startsWith text (start ++ more) = true) : Text.startsWith text start = true := by
  obtain ⟨rest, rfl⟩ := Text.startsWith_iff.1 h
  exact Text.startsWith_iff.2 ⟨more ++ rest, String.append_assoc ..⟩

theorem podsOfJson_append (text start more : String) :
    podsOfJson text (start ++ more) =
      (podsOfJson text start).map (·.filter (Text.startsWith ·.name (start ++ more))) := by
  have hlonger (p : Pod) :
      (Text.startsWith p.name (start ++ more) && Text.startsWith p.name start) =
        Text.startsWith p.name (start ++ more) := by
    rw [Bool.and_eq_left_iff_imp]
    exact startsWith_of_append
  unfold podsOfJson
  cases decode "pod list" text pods? with
  | error e => rfl
  | ok pods =>
    have hsame := Text.filter_sorted Pod.name (pods.filter (Text.startsWith ·.name start))
      (Text.startsWith ·.name (start ++ more))
    rw [List.filter_filter] at hsame
    simp only [hlonger] at hsame
    exact congrArg Except.ok hsame.symm

section Printing
open Json (Printable printable_text printable_list printable_object printable_field)

theorem printable_variable (v : Variable) : Printable Variable.Shown v := by
  obtain ⟨name, hname, hnameWritable⟩ := printable_text v.name
  cases hv : v.value with
  | none =>
    have hfields : ∀ field ∈ [("name", name)], field.2.Writable :=
      List.forall_mem_singleton.2 hnameWritable
    refine printable_object hfields ⟨⟨name, rfl, hname⟩, ?_⟩
    rw [hv]
    rfl
  | some text =>
    obtain ⟨value, hvalue, hvalueWritable⟩ := printable_text text
    have hfields : ∀ field ∈ [("name", name), ("value", value)], field.2.Writable :=
      List.forall_mem_cons.2 ⟨hnameWritable, List.forall_mem_singleton.2 hvalueWritable⟩
    refine printable_object hfields ⟨⟨name, rfl, hname⟩, ?_⟩
    rw [hv]
    exact ⟨value, rfl, hvalue⟩

theorem printable_container (c : Manifest.Container) : Printable Container.Shown c := by
  obtain ⟨name, hname, hnameWritable⟩ := printable_text c.name
  obtain ⟨env, henv, henvWritable⟩ := printable_list fun v (_ : v ∈ c.env) => printable_variable v
  have hfields : ∀ field ∈ [("name", name), ("env", env)], field.2.Writable :=
    List.forall_mem_cons.2 ⟨hnameWritable, List.forall_mem_singleton.2 henvWritable⟩
  exact printable_object hfields ⟨⟨name, rfl, hname⟩, .inl ⟨env, rfl, henv⟩⟩

theorem printable_state (waiting : Option String) : Printable StateShown waiting := by
  cases waiting with
  | none =>
    exact printable_object (List.forall_mem_nil _) (.inl rfl)
  | some reason =>
    obtain ⟨doc, hdoc, hwritable⟩ := printable_field "reason" "" (printable_text reason)
    have hfields : ∀ field ∈ [("waiting", doc)], field.2.Writable :=
      List.forall_mem_singleton.2 hwritable
    exact printable_object hfields ⟨doc, rfl, hdoc⟩

theorem printable_status (s : Status) : Printable Status.Shown s := by
  obtain ⟨name, hname, hnameWritable⟩ := printable_text s.name
  obtain ⟨state, hstate, hstateWritable⟩ := printable_state s.waiting
  have hfields : ∀ field ∈ [("name", name), ("state", state)], field.2.Writable :=
    List.forall_mem_cons.2 ⟨hnameWritable, List.forall_mem_singleton.2 hstateWritable⟩
  exact printable_object hfields ⟨⟨name, rfl, hname⟩, .inl ⟨state, rfl, hstate⟩⟩

theorem printable_statuses (phase : String) (statuses : List Status) :
    Printable StatusesShown (phase, statuses) := by
  obtain ⟨text, htext, htextWritable⟩ := printable_text phase
  obtain ⟨items, hitems, hitemsWritable⟩ :=
    printable_list fun s (_ : s ∈ statuses) => printable_status s
  have hfields : ∀ field ∈ [("phase", text), ("containerStatuses", items)], field.2.Writable :=
    List.forall_mem_cons.2 ⟨htextWritable, List.forall_mem_singleton.2 hitemsWritable⟩
  exact printable_object hfields ⟨.inl ⟨text, rfl, htext⟩, .inl ⟨items, rfl, hitems⟩⟩

theorem printable_manifest (m : Manifest) : Printable Manifest.Shown m := by
  obtain ⟨name, hname, hnameWritable⟩ := printable_field "name" "" (printable_text m.name)
  obtain ⟨spec, hspec, hspecWritable⟩ := printable_field "containers" []
    (printable_list fun c (_ : c ∈ m.containers) => printable_container c)
  obtain ⟨status, hstatus, hstatusWritable⟩ := printable_statuses m.phase m.statuses
  have hfields : ∀ field ∈ [("metadata", name), ("spec", spec), ("status", status)],
      field.2.Writable :=
    List.forall_mem_cons.2 ⟨hnameWritable, List.forall_mem_cons.2 ⟨hspecWritable,
      List.forall_mem_singleton.2 hstatusWritable⟩⟩
  exact printable_object hfields
    ⟨.inl ⟨name, rfl, hname⟩, .inl ⟨spec, rfl, hspec⟩, .inl ⟨status, rfl, hstatus⟩⟩

/-- Whatever pods there are, they can be listed. -/
theorem exists_listed (manifests : List Manifest) : ∃ text, Listed text manifests := by
  obtain ⟨doc, hdoc, chars, hchars⟩ := printable_field "items" []
    (printable_list fun m (_ : m ∈ manifests) => printable_manifest m)
  refine ⟨String.ofList chars, doc, ?_, hdoc⟩
  rw [String.toList_ofList]
  exact hchars

end Printing

/-- What a pod says of the manifest it was read from. -/
structure Manifest.Yields (m : Manifest) (pod : Pod) : Prop where
  name : pod.name = m.name
  phase : pod.phase.text = m.phase
  waiting : pod.waiting = m.statuses.filterMap fun s => s.waiting.map (s.name, ·)
  containers : pod.containers =
    m.containers.map fun c => ⟨c.name, c.env.map fun v => (v.name, v.value.getD "")⟩

theorem yields_pod (m : Manifest) : m.Yields m.pod :=
  ⟨rfl, Phase.text_parse _, rfl, rfl⟩

/-- Those whose names begin with `start`, each as often as it is there, in the order of the bytes of
their names and, where those are the same, in the order they had. -/
structure Chosen (start : String) (manifests chosen : List Manifest) : Prop where
  all : chosen.Perm (manifests.filter (Text.startsWith ·.name start))
  ordered : chosen.Pairwise fun a b => Text.encodeUtf8 a.name ≤ Text.encodeUtf8 b.name
  stable : ∀ name, chosen.filter (·.name = name) =
    (manifests.filter (Text.startsWith ·.name start)).filter (·.name = name)

theorem chosen_selected (start : String) (manifests : List Manifest) :
    Chosen start manifests (selected start manifests) := by
  have hordered : (selected start manifests).Pairwise fun a b => a.name ≤ b.name :=
    Text.pairwise_sorted _
  exact {
    all := List.mergeSort_perm _ _
    ordered := hordered.imp Text.encodeUtf8_le_iff.2
    stable := fun name => Text.filter_name_sorted _ name }

/-- Reading a listing undoes it. A longer beginning leaves fewer of the same pods. -/
theorem podsOfJson_undoes_listing :
    (∀ manifests : List Manifest, (∃ text, Listed text manifests) ∧
      ∀ text start, Listed text manifests → ∃ chosen pods, podsOfJson text start = .ok pods ∧
        Chosen start manifests chosen ∧ List.Forall₂ Manifest.Yields chosen pods) ∧
    ∀ text start more, podsOfJson text (start ++ more) =
      (podsOfJson text start).map (·.filter (Text.startsWith ·.name (start ++ more))) := by
  refine ⟨fun manifests => ⟨exists_listed manifests, fun text start h => ?_⟩, podsOfJson_append⟩
  have hyields : List.Forall₂ Manifest.Yields (selected start manifests)
      ((selected start manifests).map Manifest.pod) := by
    rw [List.forall₂_map_right_iff]
    exact List.forall₂_same.2 fun m _ => yields_pod m
  exact ⟨_, _, podsOfJson_listed h start, chosen_selected start manifests, hyields⟩

/-- Two pods out of order, one of them with a container that waits; `uid` is not known. -/
def twoPods : String :=
  "\x7b\"items\":[\x7b\"metadata\":\x7b\"name\":\"b\",\"uid\":\"7\"\x7d\x7d," ++
    "\x7b\"metadata\":\x7b\"name\":\"a\"\x7d,\"status\":\x7b\"phase\":\"Pending\"," ++
    "\"containerStatuses\":[\x7b\"name\":\"c\",\"state\":" ++
    "\x7b\"waiting\":\x7b\"reason\":\"R\"\x7d\x7d\x7d]\x7d\x7d]\x7d"

theorem listed_twoPods :
    Listed twoPods [⟨"b", "", [], []⟩, ⟨"a", "Pending", [⟨"c", some "R"⟩], []⟩] := by
  have hfirst := Written.object (.lastMember (writtenKey_of_plain "metadata" (by decide)) (.object
    (.member (writtenKey_of_plain "name" (by decide)) (written_of_plain "b" (by decide))
      (.lastMember (writtenKey_of_plain "uid" (by decide)) (written_of_plain "7" (by decide))))))
  have hstate := Written.object (.lastMember (writtenKey_of_plain "waiting" (by decide)) (.object
    (.lastMember (writtenKey_of_plain "reason" (by decide)) (written_of_plain "R" (by decide)))))
  have hcontainer := Written.object (.member (writtenKey_of_plain "name" (by decide))
    (written_of_plain "c" (by decide))
    (.lastMember (writtenKey_of_plain "state" (by decide)) hstate))
  have hstatus := Written.object (.member (writtenKey_of_plain "phase" (by decide))
    (written_of_plain "Pending" (by decide)) (.lastMember
      (writtenKey_of_plain "containerStatuses" (by decide)) (.array (.lastItem hcontainer))))
  have hsecond := Written.object (.member (writtenKey_of_plain "metadata" (by decide)) (.object
    (.lastMember (writtenKey_of_plain "name" (by decide)) (written_of_plain "a" (by decide))))
      (.lastMember (writtenKey_of_plain "status" (by decide)) hstatus))
  have hdoc := Written.object (.lastMember (writtenKey_of_plain "items" (by decide))
    (.array (.item hfirst (.lastItem hsecond))))
  have hfirst' : Manifest.Shown _ ⟨"b", "", [], []⟩ := meansObject_of_plain [("metadata", _)]
    (by decide) ⟨.inl ⟨_, rfl, meansObject_of_plain [("name", _), ("uid", .string ['7'])]
      (by decide) (.inl ⟨_, rfl, meansText_of_plain "b" (by decide)⟩)⟩, .inr ⟨rfl, rfl⟩,
    .inr ⟨rfl, rfl⟩⟩
  have hcontainer' : Status.Shown _ ⟨"c", some "R"⟩ :=
    meansObject_of_plain [("name", _), ("state", _)] (by decide)
      ⟨⟨_, rfl, meansText_of_plain "c" (by decide)⟩, .inl ⟨_, rfl,
        meansObject_of_plain [("waiting", _)] (by decide) ⟨_, rfl,
          meansObject_of_plain [("reason", _)] (by decide)
            (.inl ⟨_, rfl, meansText_of_plain "R" (by decide)⟩)⟩⟩⟩
  have hsecond' : Manifest.Shown _ ⟨"a", "Pending", [⟨"c", some "R"⟩], []⟩ :=
    meansObject_of_plain [("metadata", _), ("status", _)] (by decide)
      ⟨.inl ⟨_, rfl, meansObject_of_plain [("name", _)] (by decide)
        (.inl ⟨_, rfl, meansText_of_plain "a" (by decide)⟩)⟩, .inr ⟨rfl, rfl⟩,
        .inl ⟨_, rfl, meansObject_of_plain [("phase", _), ("containerStatuses", _)] (by decide)
          ⟨.inl ⟨_, rfl, meansText_of_plain "Pending" (by decide)⟩,
            .inl ⟨_, rfl, ⟨_, rfl, .cons hcontainer' .nil⟩⟩⟩⟩⟩
  exact ⟨_, Eq.mp (congrArg (Written _) (by decide +kernel)) hdoc,
    meansObject_of_plain [("items", _)] (by decide)
      (.inl ⟨_, rfl, ⟨_, rfl, .cons hfirst' (.cons hsecond' .nil)⟩⟩)⟩

theorem podsOfJson_undoes_listing_twoPods : ∃ chosen pods, podsOfJson twoPods "" = .ok pods ∧
    Chosen "" [⟨"b", "", [], []⟩, ⟨"a", "Pending", [⟨"c", some "R"⟩], []⟩] chosen ∧
      List.Forall₂ Manifest.Yields chosen pods :=
  (podsOfJson_undoes_listing.1 _).2 _ _ listed_twoPods

end ClusterHealth.Kubectl
