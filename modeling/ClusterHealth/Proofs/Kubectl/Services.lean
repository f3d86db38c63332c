import ClusterHealth.Kubectl.Objects
import ClusterHealth.Proofs.Json.Grammar
import ClusterHealth.Proofs.Json.Integers
import ClusterHealth.Proofs.Transfer.Service

/-! From the description of a service to the addresses and ports that a transfer uses, and how
much of the service they cover. -/
namespace ClusterHealth

/-- Not there, or empty. -/
def Vacant (address : Option String) : Prop := address = none ∨ address = some ""

theorem usable_eq_some {address : Option String} {text : String} :
    usable address = some text ↔ address = some text ∧ text ≠ "" := by
  rw [usable, Option.filter_eq_some_iff]
  simp

theorem usable_eq_none {address : Option String} : usable address = none ↔ Vacant address := by
  cases address with
  | none => exact iff_of_true rfl (.inl rfl)
  | some text =>
    rw [usable, Option.filter_eq_none_iff]
    simp [Vacant]

namespace Kubectl
open Json (Document HasOr MayHave MeansText MeansList MeansObject MeansInteger Fits Written Record
  record?_bind text?_of_means)

def PortShown : Document → Int → Prop := MeansObject (HasOr "port" 0 MeansInteger)

def SpecShown : Document → ServiceSpec → Prop :=
  MeansObject fun members spec => MayHave "clusterIP" MeansText members spec.clusterAddress ∧
    MayHave "loadBalancerIP" MeansText members spec.loadBalancerAddress ∧
    HasOr "ports" [] (MeansList PortShown) members spec.ports

def IngressShown : Document → Option String → Prop := MeansObject (MayHave "ip" MeansText)

def BalancerShown : Document → List (Option String) → Prop :=
  MeansObject (HasOr "ingress" [] (MeansList IngressShown))

/-- What was asked for, and the addresses given out. -/
def ServiceShown : Document → ServiceSpec × List (Option String) → Prop :=
  MeansObject fun members service => HasOr "spec" {} SpecShown members service.1 ∧
    HasOr "status" [] (MeansObject (HasOr "loadBalancer" [] BalancerShown)) members service.2

/-- A service, as text. Parts that are not known may stand anywhere in it, and parts that are as
without them may be left out. -/
def Described (text : String) (spec : ServiceSpec) (ingress : List (Option String)) : Prop :=
  ∃ doc, Written (.value doc) text.toList ∧ ServiceShown doc (spec, ingress)

section Reading
variable {doc : Document}

theorem servicePort?_eq {port : Int} (h : PortShown doc port) :
    servicePort? doc = if Fits port then some port else none := by
  refine record?_bind h (fun members hm => ?_) fun members r hm hslots => ?_
  · exact List.forall_mem_singleton.2 hm.single
  · refine Record.orElse_eq (hslots "port" (by simp)) hm (fun _ => Json.int32?_of_means)
      fun hzero => ?_
    rw [hzero]
    rfl

theorem mapM_fits (ports : List Int) :
    (ports.mapM fun port => if Fits port then some port else none) =
      if ∀ port ∈ ports, Fits port then some ports else none := by
  induction ports with
  | nil => rfl
  | cons port ports ih =>
    rw [List.mapM_cons, ih]
    by_cases hport : Fits port
    · by_cases hports : ∀ port ∈ ports, Fits port
      · rw [if_pos hport, if_pos hports, if_pos (List.forall_mem_cons.2 ⟨hport, hports⟩)]
        rfl
      · rw [if_pos hport, if_neg hports, if_neg fun h => hports (List.forall_mem_cons.1 h).2]
        rfl
    · rw [if_neg hport, if_neg fun h => hport (List.forall_mem_cons.1 h).1]
      rfl

theorem serviceSpec?_eq {spec : ServiceSpec} (h : SpecShown doc spec) :
    serviceSpec? doc = if ∀ port ∈ spec.ports, Fits port then some spec else none := by
  refine record?_bind h (fun members hm => ?_) fun members r hm hslots => ?_
  · obtain ⟨hcluster, hbalancer, hports⟩ := hm
    exact List.forall_mem_cons.2 ⟨hcluster.single, List.forall_mem_cons.2 ⟨hbalancer.single,
      List.forall_mem_singleton.2 hports.single⟩⟩
  · obtain ⟨hcluster, hbalancer, hports⟩ := hm
    have hreadCluster := Record.optional_eq (hslots "clusterIP" (by simp)) hcluster
      (fun _ _ => text?_of_means) rfl
    have hreadBalancer := Record.optional_eq (hslots "loadBalancerIP" (by simp)) hbalancer
      (fun _ _ => text?_of_means) rfl
    have hreadPorts : r.orElse "ports" [] (Document.list? servicePort?) =
        if ∀ port ∈ spec.ports, Fits port then some spec.ports else none := by
      refine
        Record.orElse_eq (hslots "ports" (by simp)) hports (fun doc hdoc => ?_) fun hempty => ?_
      · rw [Json.list?_eq_mapM hdoc fun _ _ => servicePort?_eq, mapM_fits]
      · rw [hempty]
        rfl
    rw [hreadCluster, hreadBalancer, hreadPorts]
    simp only [Option.bind_eq_bind, Option.bind_some]
    split <;> rfl

theorem loadBalancer?_eq {ingress : List (Option String)} (h : BalancerShown doc ingress) :
    loadBalancer? doc = some ingress := by
  have hingress (doc : Document) (address : Option String) (h : IngressShown doc address) :
      ingress? doc = some (id address) := by
    refine record?_bind h (fun members hm => ?_) fun members r hm hslots => ?_
    · exact List.forall_mem_singleton.2 hm.single
    · exact Record.optional_eq (hslots "ip" (by simp)) hm (fun _ _ => text?_of_means) rfl
  refine record?_bind h (fun members hm => ?_) fun members r hm hslots => ?_
  · exact List.forall_mem_singleton.2 hm.single
  · have hread := Record.orElse_list (hslots "ingress" (by simp)) hm hingress
    rwa [List.map_id] at hread

theorem serviceStatus?_eq {ingress : List (Option String)}
    (h : MeansObject (HasOr "loadBalancer" [] BalancerShown) doc ingress) :
    serviceStatus? doc = some ingress := by
  refine record?_bind h (fun members hm => ?_) fun members r hm hslots => ?_
  · exact List.forall_mem_singleton.2 hm.single
  · exact Record.orElse_same (hslots "loadBalancer" (by simp)) hm fun _ => loadBalancer?_eq

end Reading

theorem endpointOfJson_described {text : String} {spec : ServiceSpec}
    {ingress : List (Option String)} (h : Described text spec ingress) :
    endpointOfJson text = if ∀ port ∈ spec.ports, Fits port then .ok (endpointOf spec ingress)
      else .error (.undecodable "service") := by
  obtain ⟨doc, hdoc, hservice⟩ := h
  have hread : endpoint? doc =
      if ∀ port ∈ spec.ports, Fits port then some (endpointOf spec ingress) else none := by
    refine record?_bind hservice (fun members hm => ?_) fun members r hm hslots => ?_
    · obtain ⟨hspec, hstatus⟩ := hm
      exact List.forall_mem_cons.2 ⟨hspec.single, List.forall_mem_singleton.2 hstatus.single⟩
    · obtain ⟨hspec, hstatus⟩ := hm
      have hreadSpec : r.orElse "spec" {} serviceSpec? =
          if ∀ port ∈ spec.ports, Fits port then some spec else none := by
        refine Record.orElse_eq (hslots "spec" (by simp)) hspec (fun _ => serviceSpec?_eq)
          fun hempty => ?_
        have hports : ∀ port ∈ spec.ports, Fits port := by
          change spec = {} at hempty
          rw [hempty]
          exact List.forall_mem_nil _
        rw [if_pos hports]
        exact congrArg some hempty.symm
      have hreadStatus := Record.orElse_same (hslots "status" (by simp)) hstatus
        fun _ => serviceStatus?_eq
      rw [hreadSpec]
      by_cases hports : ∀ port ∈ spec.ports, Fits port
      · rw [if_pos hports, if_pos hports]
        change (r.orElse "status" [] serviceStatus?).bind _ = _
        rw [hreadStatus]
        rfl
      · rw [if_neg hports, if_neg hports]
        rfl
  rw [endpointOfJson, decode, Json.parse?_eq_some_iff.2 hdoc, Option.bind_some, hread]
  by_cases hports : ∀ port ∈ spec.ports, Fits port
  · rw [if_pos hports, if_pos hports]
  · rw [if_neg hports, if_neg hports]

section Printing
open Json (Printable printable_integer printable_text printable_list printable_object
  printable_field exists_mayHave)

theorem printable_spec (spec : ServiceSpec) : Printable SpecShown spec := by
  obtain ⟨cluster, hclusterWritable, hcluster⟩ :=
    exists_mayHave fun address (_ : address ∈ spec.clusterAddress) => printable_text address
  obtain ⟨balancer, hbalancerWritable, hbalancer⟩ :=
    exists_mayHave fun address (_ : address ∈ spec.loadBalancerAddress) => printable_text address
  obtain ⟨ports, hports, hportsWritable⟩ := printable_list fun port (_ : port ∈ spec.ports) =>
    printable_field "port" 0 (printable_integer port)
  have hfields : ∀ field ∈ [("clusterIP", cluster), ("loadBalancerIP", balancer), ("ports", ports)],
      field.2.Writable :=
    List.forall_mem_cons.2 ⟨hclusterWritable, List.forall_mem_cons.2 ⟨hbalancerWritable,
      List.forall_mem_singleton.2 hportsWritable⟩⟩
  exact printable_object hfields
    ⟨hcluster _ _ rfl, hbalancer _ _ rfl, .inl ⟨ports, rfl, hports⟩⟩

theorem printable_ingress (address : Option String) : Printable IngressShown address := by
  obtain ⟨doc, hwritable, hdoc⟩ :=
    exists_mayHave fun text (_ : text ∈ address) => printable_text text
  have hfields : ∀ field ∈ [("ip", doc)], field.2.Writable := List.forall_mem_singleton.2 hwritable
  exact printable_object hfields (hdoc _ _ rfl)

/-- Whatever a service is like, it can be described. -/
theorem exists_described (spec : ServiceSpec) (ingress : List (Option String)) :
    ∃ text, Described text spec ingress := by
  obtain ⟨service, hservice, hserviceWritable⟩ := printable_spec spec
  obtain ⟨status, hstatus, hstatusWritable⟩ :=
    printable_field "loadBalancer" [] (printable_field "ingress" []
      (printable_list fun address (_ : address ∈ ingress) => printable_ingress address))
  have hfields : ∀ field ∈ [("spec", service), ("status", status)], field.2.Writable :=
    List.forall_mem_cons.2 ⟨hserviceWritable, List.forall_mem_singleton.2 hstatusWritable⟩
  have hprintable : Printable ServiceShown (spec, ingress) :=
    printable_object hfields ⟨.inl ⟨service, rfl, hservice⟩, .inl ⟨status, rfl, hstatus⟩⟩
  obtain ⟨doc, hdoc, chars, hchars⟩ := hprintable
  refine ⟨String.ofList chars, doc, ?_, hdoc⟩
  rw [String.toList_ofList]
  exact hchars

end Printing

/-- What an endpoint tells of the service that it was read from. -/
structure Tells (spec : ServiceSpec) (ingress : List (Option String)) (e : Endpoint) : Prop where
  ports : e.port :: e.extraPorts = if spec.ports = [] then [0] else spec.ports
  cluster : ∀ address, e.clusterAddress = some address ↔
    spec.clusterAddress = some address ∧ address ≠ "" ∧ address ≠ "None"
  /-- The address that was asked for goes before the first one given out. -/
  external : ∀ address, e.externalAddress = some address ↔ address ≠ "" ∧
    (spec.loadBalancerAddress = some address ∨ Vacant spec.loadBalancerAddress ∧
      ∃ before after, ingress = before ++ some address :: after ∧ ∀ other ∈ before, Vacant other)

theorem tells_endpointOf (spec : ServiceSpec) (ingress : List (Option String)) :
    Tells spec ingress (endpointOf spec ingress) where
  ports := by
    cases hports : spec.ports with
    | nil => simp [endpointOf, hports]
    | cons port ports => simp [endpointOf, hports]
  cluster := by
    intro address
    change (usable spec.clusterAddress).filter (· ≠ headless) = some address ↔ _
    rw [Option.filter_eq_some_iff, usable_eq_some, decide_eq_true_eq, and_assoc]
    rfl
  external := by
    intro address
    change (usable spec.loadBalancerAddress <|> ingress.findSome? usable) = some address ↔ _
    rw [Option.orElse_eq_orElse, Option.orElse_eq_or, Option.or_eq_some_iff, usable_eq_some,
      usable_eq_none, List.findSome?_eq_some_iff]
    simp only [usable_eq_some, usable_eq_none]
    constructor
    · rintro (⟨hbalancer, haddress⟩ | ⟨hvacant, before, _, after, rfl, ⟨rfl, haddress⟩, hbefore⟩)
      · exact ⟨haddress, .inl hbalancer⟩
      · exact ⟨haddress, .inr ⟨hvacant, before, after, rfl, hbefore⟩⟩
    · rintro ⟨haddress, hbalancer | ⟨hvacant, before, after, rfl, hbefore⟩⟩
      · exact .inl ⟨hbalancer, haddress⟩
      · exact .inr ⟨hvacant, before, _, after, rfl, ⟨rfl, haddress⟩, hbefore⟩

end Kubectl

namespace Endpoint

/-- How much an endpoint covers, by what it leaves to transfer from. -/
structure Graded (e : Endpoint) : Prop where
  nothing : e.coverage = .nothing ↔ e.port ≤ 0 ∨ e.targets = []
  full : e.coverage = .full ↔
    0 < e.port ∧ e.targets.length = 2 ∧ ∀ port ∈ e.extraPorts, 0 < port
  partly : e.coverage = .partly ↔ 0 < e.port ∧ e.targets ≠ [] ∧
    ¬(e.targets.length = 2 ∧ ∀ port ∈ e.extraPorts, 0 < port)
  invalid : e.invalidExtraPorts.Sublist e.extraPorts
  invalid_count : ∀ port,
    e.invalidExtraPorts.count port = if port ≤ 0 then e.extraPorts.count port else 0
  targets : e.targets =
    ((e.clusterAddress.toList.map ("cluster", ·) ++
      e.externalAddress.toList.map ("external", ·)).filter (·.2 ≠ "")).map fun target =>
        (target.1, target.2 ++ ":" ++ toString e.port)

theorem targets_eq (e : Endpoint) : e.targets =
    ((e.clusterAddress.toList.map ("cluster", ·) ++
      e.externalAddress.toList.map ("external", ·)).filter (·.2 ≠ "")).map fun target =>
        (target.1, target.2 ++ ":" ++ toString e.port) := by
  have hlabelled (label : String) (address : Option String) :
      ((address.toList.map (label, ·)).filter (·.2 ≠ "")).map
          (fun target => (target.1, target.2 ++ ":" ++ toString e.port)) =
        ((usable address).map fun address => (label, e.remote address)).toList := by
    rw [List.filter_map, List.map_map]
    change (address.toList.filter (· ≠ "")).map _ = _
    rw [← toList_usable]
    cases usable address with
    | none => rfl
    | some text => rfl
  rw [List.filter_append, List.map_append, hlabelled, hlabelled]
  rfl

theorem coverage_eq (e : Endpoint) : e.coverage =
    if e.port ≤ 0 ∨ e.targets = [] then .nothing
    else if e.targets.length = 2 ∧ ∀ port ∈ e.extraPorts, 0 < port then .full
    else .partly := by
  have hnone : e.targets = [] ↔ (e.cluster?.isNone && e.external?.isNone) = true := by
    simp [targets]
  have hboth : e.targets.length = 2 ↔ (e.cluster?.isSome && e.external?.isSome) = true := by
    rw [targets, List.length_append, Option.length_toList, Option.length_toList, Option.isSome_map,
      Option.isSome_map]
    cases e.cluster?.isSome with
    | true => cases e.external?.isSome with | _ => decide
    | false => cases e.external?.isSome with | _ => decide
  have hvalid := e.invalidExtraPorts_isEmpty
  rw [coverage]
  simp only [Bool.or_eq_true, decide_eq_true_eq, ← hnone,
    Bool.and_eq_true _ e.invalidExtraPorts.isEmpty, ← hboth, hvalid]

theorem count_invalidExtraPorts (e : Endpoint) (port : Int) :
    e.invalidExtraPorts.count port = if port ≤ 0 then e.extraPorts.count port else 0 := by
  by_cases hport : port ≤ 0
  · rw [if_pos hport]
    exact List.count_filter (decide_eq_true hport)
  · rw [if_neg hport, List.count_eq_zero]
    exact fun hmem => hport (of_decide_eq_true (List.mem_filter.1 hmem).2)

theorem graded (e : Endpoint) : e.Graded where
  nothing := by
    rw [e.coverage_eq]
    split_ifs with hnothing hfull
    · exact iff_of_true rfl hnothing
    · exact iff_of_false nofun hnothing
    · exact iff_of_false nofun hnothing
  full := by
    rw [e.coverage_eq]
    split_ifs with hnothing hfull
    · refine iff_of_false nofun ?_
      rintro ⟨hport, hboth, -⟩
      rcases hnothing with hzero | hempty
      · exact Int.not_le.2 hport hzero
      · rw [hempty] at hboth
        cases hboth
    · exact iff_of_true rfl ⟨Int.not_le.1 fun hzero => hnothing (.inl hzero), hfull⟩
    · exact iff_of_false nofun fun h => hfull h.2
  partly := by
    rw [e.coverage_eq]
    split_ifs with hnothing hfull
    · refine iff_of_false nofun ?_
      rintro ⟨hport, htargets, -⟩
      exact hnothing.elim (Int.not_le.2 hport) htargets
    · exact iff_of_false nofun fun h => h.2.2 hfull
    · refine iff_of_true rfl ⟨?_, ?_, hfull⟩
      · exact Int.not_le.1 fun hzero => hnothing (.inl hzero)
      · exact fun hempty => hnothing (.inr hempty)
  invalid := List.filter_sublist
  invalid_count := e.count_invalidExtraPorts
  targets := e.targets_eq

end Endpoint

open Json (Fits MeansObject HasOr Written written_of_plain writtenKey_of_plain meansText_of_plain
  meansObject_of_plain)
open Kubectl

/-- A service can be read unless a port is too large. The endpoint tells what was described, and any
endpoint covers what it leaves to transfer from. -/
theorem endpointOfJson_tells_graded :
    (∀ (spec : ServiceSpec) (ingress : List (Option String)),
      (∃ text, Described text spec ingress) ∧ ∀ text, Described text spec ingress →
        ((∃ e, endpointOfJson text = .ok e) ↔ ∀ port ∈ spec.ports, Fits port) ∧
          ∀ e, endpointOfJson text = .ok e → Tells spec ingress e) ∧
    ∀ e : Endpoint, e.Graded := by
  refine ⟨fun spec ingress => ⟨exists_described spec ingress, fun text h => ?_⟩, Endpoint.graded⟩
  have hread := endpointOfJson_described h
  by_cases hports : ∀ port ∈ spec.ports, Fits port
  · rw [if_pos hports] at hread
    rw [hread]
    refine ⟨iff_of_true ⟨_, rfl⟩ hports, ?_⟩
    rintro _ ⟨rfl⟩
    exact tells_endpointOf spec ingress
  · rw [if_neg hports] at hread
    rw [hread]
    refine ⟨iff_of_false nofun hports, nofun⟩

/-- A headless service with an address of its own and a port that is not valid. -/
def headlessService : String :=
  "\x7b\"spec\":\x7b\"clusterIP\":\"None\",\"type\":\"LoadBalancer\"," ++
    "\"ports\":[\x7b\"port\":69\x7d,\x7b\"port\":-1\x7d]\x7d," ++
    "\"status\":\x7b\"loadBalancer\":\x7b\"ingress\":[\x7b\"ip\":\"10.0.0.1\"\x7d]\x7d\x7d\x7d"

theorem described_headlessService :
    Described headlessService ⟨some "None", none, [69, -1]⟩ [some "10.0.0.1"] := by
  have hport (port : Int) := Written.object (.lastMember (writtenKey_of_plain "port" (by decide))
    (.number (Json.isNumber_integerLiteral port)))
  have hspec := Written.object (.member (writtenKey_of_plain "clusterIP" (by decide))
    (written_of_plain "None" (by decide)) (.member (writtenKey_of_plain "type" (by decide))
      (written_of_plain "LoadBalancer" (by decide)) (.lastMember
        (writtenKey_of_plain "ports" (by decide))
        (.array (.item (hport 69) (.lastItem (hport (-1))))))))
  have hingress := Written.object (.lastMember (writtenKey_of_plain "ip" (by decide))
    (written_of_plain "10.0.0.1" (by decide)))
  have hstatus := Written.object (.lastMember (writtenKey_of_plain "loadBalancer" (by decide))
    (.object
      (.lastMember (writtenKey_of_plain "ingress" (by decide)) (.array (.lastItem hingress)))))
  have hdoc := Written.object (.member (writtenKey_of_plain "spec" (by decide)) hspec
    (.lastMember (writtenKey_of_plain "status" (by decide)) hstatus))
  have hname : Json.Plain "port" := by decide
  have hport' (port : Int) : PortShown _ port :=
    meansObject_of_plain [("port", _)] (List.forall_mem_singleton.2 hname) (.inl ⟨_, rfl, rfl⟩)
  have hspec' : SpecShown _ ⟨some "None", none, [69, -1]⟩ :=
    meansObject_of_plain
      [("clusterIP", _), ("type", .string "LoadBalancer".toList), ("ports", _)] (by decide)
      ⟨⟨_, rfl, meansText_of_plain "None" (by decide)⟩, .inl rfl,
        .inl ⟨_, rfl, _, rfl, .cons (hport' 69) (.cons (hport' (-1)) .nil)⟩⟩
  have hingress' : IngressShown _ (some "10.0.0.1") :=
    meansObject_of_plain [("ip", _)] (by decide)
      ⟨_, rfl, meansText_of_plain "10.0.0.1" (by decide)⟩
  have hstatus' : MeansObject (HasOr "loadBalancer" [] BalancerShown) _ [some "10.0.0.1"] :=
    meansObject_of_plain [("loadBalancer", _)] (by decide) (.inl ⟨_, rfl,
      meansObject_of_plain [("ingress", _)] (by decide)
        (.inl ⟨_, rfl, _, rfl, .cons hingress' .nil⟩)⟩)
  exact ⟨_, Eq.mp (congrArg (Written _) (by decide +kernel)) hdoc,
    meansObject_of_plain [("spec", _), ("status", _)] (by decide)
      ⟨.inl ⟨_, rfl, hspec'⟩, .inl ⟨_, rfl, hstatus'⟩⟩⟩

theorem endpointOfJson_tells_graded_headless : ∃ e, endpointOfJson headlessService = .ok e ∧
    Tells ⟨some "None", none, [69, -1]⟩ [some "10.0.0.1"] e := by
  obtain ⟨hdecodes, htells⟩ := (endpointOfJson_tells_graded.1 _ _).2 _ described_headlessService
  obtain ⟨e, he⟩ := hdecodes.2 (by decide)
  exact ⟨e, he, htells e he⟩

end ClusterHealth
