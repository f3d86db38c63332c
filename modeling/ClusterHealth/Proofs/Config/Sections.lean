import ClusterHealth.Proofs.Config.Document
import ClusterHealth.Proofs.Json.Paths

/-! The configuration section by section: what is read from a document is written back as it was. -/
namespace ClusterHealth.Config
open Json (Alike Ascending Ordered insertFields)

/-- The sections with their members, as they are listed. -/
def sections (c : Config) : NameMap (NameMap Json) := [
  ("timeouts", c.timeouts.members),
  ("transfer", c.transfers.members),
  ("tools", c.tools.members),
  ("api", c.gateway.members),
  ("ims", c.ims.members),
  ("conman", c.conman.members),
  ("logging", c.logging.members)]

theorem members_eq (c : Config) :
    c.members = ("namespace", .string c.nspace) ::
      c.sections.map fun (name, members) => (name, .ofFields members) := rfl

/-- The names of the sections and of their members. -/
def outline : NameMap (List String) := [
  ("timeouts", ["default_secs", "grace_secs", "per_service"]),
  ("transfer", ["tftp_services", "artifact_dir", "ipxe_container", "ipxe_pod_prefixes",
    "settings_config_map", "settings_key", "shared_pvc", "temp_dir", "max_consistency_redos",
    "skip_on_master", "mode"]),
  ("tools", ["kubectl", "curl", "md5sum", "cray"]),
  ("api", ["base_url", "token_path", "client_id", "secret_name", "secret_namespace", "secret_key",
    "verify_tls", "timeout_secs"]),
  ("ims", ["recipe_name", "recipe_distro"]),
  ("conman", ["container", "expected_waiting_reason"]),
  ("logging", ["level", "format", "log_dir", "rotation"])]

theorem outline_sections (c : Config) :
    c.sections.map (fun (name, members) => (name, members.map Prod.fst)) = outline := rfl

theorem mem_outline {c : Config} {name : String} {members : NameMap Json}
    (h : (name, members) ∈ c.sections) : (name, members.map Prod.fst) ∈ outline :=
  outline_sections c ▸ List.mem_map_of_mem h

theorem nodup_members {c : Config} {name : String} {members : NameMap Json}
    (h : (name, members) ∈ c.sections) : (members.map Prod.fst).Nodup := by
  have hnodup : ∀ entry ∈ outline, entry.2.Nodup := by decide
  exact hnodup _ (mem_outline h)

section Values
variable {json : Json} {α : Type}

theorem eq_of_natOf? {bound n : Nat} (h : natOf? bound json = some n) : json = .ofNat n := by
  cases json with
  | number x =>
    cases x with
    | integer i =>
      obtain ⟨⟨hnonneg, -⟩, hn⟩ := Option.ite_none_right_eq_some.1 h
      obtain rfl := Option.some.inj hn
      have hi : ((i.toNat : Nat) : Int) = i := Int.toNat_of_nonneg hnonneg
      rw [Json.ofNat, hi]
      rfl
    | float x => cases h
  | _ => cases h

theorem eq_of_boolOf? {b : Bool} (h : boolOf? json = some b) : json = .bool b := by
  cases json with
  | bool value =>
    obtain rfl := Option.some.inj h
    rfl
  | _ => cases h

theorem eq_of_string? {text : String} (h : json.string? = some text) : json = .string text :=
  Json.string?_eq_some.1 h

theorem eq_of_optionalTextOf? {text : Option String} (h : optionalTextOf? json = some text) :
    json = optionalJson text := by
  cases json with
  | null =>
    obtain rfl := Option.some.inj h
    rfl
  | string value =>
    obtain rfl := Option.some.inj h
    rfl
  | _ => cases h

theorem eq_of_mapM_string? {items : List Json} {texts : List String}
    (h : items.mapM Json.string? = some texts) : items = texts.map .string := by
  induction items generalizing texts with
  | nil =>
    obtain rfl := Option.some.inj h
    rfl
  | cons item rest ih =>
    rw [List.mapM_cons] at h
    obtain ⟨text, htext, h⟩ := Option.bind_eq_some_iff.1 h
    obtain ⟨others, hothers, h⟩ := Option.bind_eq_some_iff.1 h
    obtain rfl := Option.some.inj h
    rw [List.map_cons, ← ih hothers, ← eq_of_string? htext]

theorem eq_of_textsOf? {texts : List String} (h : textsOf? json = some texts) :
    json = .array (texts.map .string) := by
  cases json with
  | array items =>
    have hitems : items.mapM Json.string? = some texts := h
    rw [eq_of_mapM_string? hitems]
  | _ => cases h

theorem insertField_of_forall_lt {key : String} {value : Json} {fields : List (String × Json)}
    (h : ∀ entry ∈ fields, entry.1 < key) :
    Json.insertField key value fields = fields ++ [(key, value)] := by
  induction fields with
  | nil => rfl
  | cons first rest ih =>
    have hfirst : first.1 < key := h first List.mem_cons_self
    unfold Json.insertField
    rw [if_neg (not_lt.2 hfirst.le), if_neg hfirst.ne',
      ih fun entry hentry => h entry (List.mem_cons_of_mem _ hentry)]
    rfl

/-- Fields in their order make up the object that has them. -/
theorem insertFields_append {members fields : List (String × Json)}
    (h : Ascending (fields ++ members)) : insertFields members fields = fields ++ members := by
  induction members generalizing fields with
  | nil => exact (List.append_nil fields).symm
  | cons first rest ih =>
    obtain ⟨key, value⟩ := first
    have hlast : ∀ entry ∈ fields, entry.1 < key := fun entry hentry =>
      (List.pairwise_append.1 h).2.2 entry hentry _ List.mem_cons_self
    change insertFields rest (Json.insertField key value fields) = _
    rw [insertField_of_forall_lt hlast, ih, List.append_assoc]
    · rfl
    · rwa [List.append_assoc]

theorem ofFields_of_ascending {fields : List (String × Json)} (h : Ascending fields) :
    Json.ofFields fields = .object fields :=
  congrArg Json.object (insertFields_append h)

theorem mapJson_eq (write : α → Json) (m : NameMap α) :
    mapJson write m = Json.ofFields (m.map fun entry => (entry.1, write entry.2)) := rfl

theorem eq_of_mapOf? {read : Json → Option α} {write : α → Json} {m : NameMap α}
    (hread : ∀ json x, read json = some x → json = write x) (hordered : Ordered json)
    (h : mapOf? read json = some m) : json = mapJson write m := by
  cases json with
  | object fields =>
    have halike := alike_of_mapOf? h
    have hfields : fields = m.map fun entry => (entry.1, write entry.2) := by
      clear h hordered
      induction halike with
      | nil => rfl
      | @cons first second _ _ hfirst _ ih =>
        obtain ⟨name, value⟩ := first
        obtain ⟨name', x⟩ := second
        obtain ⟨rfl, hx⟩ := hfirst
        rw [List.map_cons, ← ih]
        exact congrArg₂ List.cons (Prod.ext rfl (hread value x hx)) rfl
    rw [mapJson_eq, ← hfields, ofFields_of_ascending hordered.ascending]
  | _ => cases h

end Values

/-- A document has a value for each member, in an object of its own. -/
def Covers (members : NameMap Json) (value : Json) : Prop :=
  ∃ fields, value = .object fields ∧ Ordered value ∧
    ∀ name ∈ members.map Prod.fst, (fields.lookup name).isSome = true

/-- A document has the members as they are. -/
def Holds (members : NameMap Json) (value : Json) : Prop :=
  ∀ entry ∈ members, value.field? entry.1 = some entry.2

theorem holds_nil (value : Json) : Holds [] value := nofun

theorem holds_cons {name : String} {inner value : Json} {members : NameMap Json} :
    Holds ((name, inner) :: members) value ↔
      value.field? name = some inner ∧ Holds members value :=
  List.forall_mem_cons

section Settings
variable {fields : List (String × Json)} {names : List String} {name : String} {α : Type}
  {default : α} {read : Json → Option α} {write : α → Json} {x : α}

/-- A setting that is given is written back as it was. -/
theorem field?_of_setting (hread : ∀ json x, fields.lookup name = some json → read json = some x →
      json = write x) (hgiven : ∀ name ∈ names, (fields.lookup name).isSome = true)
    (hname : name ∈ names) (h : setting fields name default read = some x) :
    (Json.object fields).field? name = some (write x) := by
  obtain ⟨json, hjson⟩ := Option.isSome_iff_exists.1 (hgiven name hname)
  rw [setting, hjson] at h
  rw [Json.field?_object, hjson, hread json x hjson h]

theorem field?_of_text (hgiven : ∀ name ∈ names, (fields.lookup name).isSome = true)
    (hname : name ∈ names) {default text : String}
    (h : setting fields name default valueReader.text? = some text) :
    (Json.object fields).field? name = some (.string text) :=
  field?_of_setting (fun _ _ _ => eq_of_string?) hgiven hname h

theorem field?_of_optionalText (hgiven : ∀ name ∈ names, (fields.lookup name).isSome = true)
    (hname : name ∈ names) {default text : Option String}
    (h : setting fields name default valueReader.optionalText? = some text) :
    (Json.object fields).field? name = some (optionalJson text) :=
  field?_of_setting (fun _ _ _ => eq_of_optionalTextOf?) hgiven hname h

theorem field?_of_bool (hgiven : ∀ name ∈ names, (fields.lookup name).isSome = true)
    (hname : name ∈ names) {default b : Bool}
    (h : setting fields name default valueReader.bool? = some b) :
    (Json.object fields).field? name = some (.bool b) :=
  field?_of_setting (fun _ _ _ => eq_of_boolOf?) hgiven hname h

theorem field?_of_nat (hgiven : ∀ name ∈ names, (fields.lookup name).isSome = true)
    (hname : name ∈ names) {default n bound : Nat}
    (h : setting fields name default (valueReader.nat? bound) = some n) :
    (Json.object fields).field? name = some (.ofNat n) :=
  field?_of_setting (fun _ _ _ => eq_of_natOf?) hgiven hname h

theorem field?_of_texts (hgiven : ∀ name ∈ names, (fields.lookup name).isSome = true)
    (hname : name ∈ names) {default texts : List String}
    (h : setting fields name default valueReader.texts? = some texts) :
    (Json.object fields).field? name = some (.array (texts.map .string)) :=
  @field?_of_setting _ _ _ _ _ _ (fun texts => .array (texts.map .string)) _
    (fun _ _ _ => eq_of_textsOf?) hgiven hname h

theorem field?_of_map (hordered : Ordered (.object fields))
    (hread : ∀ json x, read json = some x → json = write x)
    (hgiven : ∀ name ∈ names, (fields.lookup name).isSome = true) (hname : name ∈ names)
    {default m : NameMap α} (h : setting fields name default (valueReader.map? read) = some m) :
    (Json.object fields).field? name = some (mapJson write m) :=
  field?_of_setting (fun _ _ hjson => eq_of_mapOf? hread (hordered.lookup hjson)) hgiven hname h

end Settings

/-! What is read from each section. -/
section Sections
variable {value : Json}

theorem Timeouts.holds_of_read? {d t : Timeouts} (hcovers : Covers d.members value)
    (h : Timeouts.read? valueReader d value = some t) : Holds t.members value := by
  obtain ⟨fields, rfl, hordered, hgiven⟩ := hcovers
  obtain ⟨defaultSeconds, hdefaultSeconds, h⟩ := Option.bind_eq_some_iff.1 h
  obtain ⟨graceSeconds, hgraceSeconds, h⟩ := Option.bind_eq_some_iff.1 h
  obtain ⟨perService, hperService, h⟩ := Option.bind_eq_some_iff.1 h
  obtain rfl := Option.some.inj h
  simp only [members, holds_cons, holds_nil, and_true]
  exact ⟨field?_of_nat hgiven (by simp [members]) hdefaultSeconds,
    field?_of_nat hgiven (by simp [members]) hgraceSeconds,
    field?_of_map hordered (fun _ _ => eq_of_natOf?) hgiven (by simp [members]) hperService⟩

theorem Transfers.holds_of_read? {d t : Transfers} (hcovers : Covers d.members value)
    (h : Transfers.read? valueReader d value = some t) : Holds t.members value := by
  obtain ⟨fields, rfl, hordered, hgiven⟩ := hcovers
  obtain ⟨services, hservices, h⟩ := Option.bind_eq_some_iff.1 h
  obtain ⟨artifactDir, hartifactDir, h⟩ := Option.bind_eq_some_iff.1 h
  obtain ⟨container, hcontainer, h⟩ := Option.bind_eq_some_iff.1 h
  obtain ⟨podStems, hpodStems, h⟩ := Option.bind_eq_some_iff.1 h
  obtain ⟨settingsConfigMap, hsettingsConfigMap, h⟩ := Option.bind_eq_some_iff.1 h
  obtain ⟨settingsKey, hsettingsKey, h⟩ := Option.bind_eq_some_iff.1 h
  obtain ⟨sharedClaim, hsharedClaim, h⟩ := Option.bind_eq_some_iff.1 h
  obtain ⟨scratchDir, hscratchDir, h⟩ := Option.bind_eq_some_iff.1 h
  obtain ⟨maxRedos, hmaxRedos, h⟩ := Option.bind_eq_some_iff.1 h
  obtain ⟨skipOnMaster, hskipOnMaster, h⟩ := Option.bind_eq_some_iff.1 h
  obtain ⟨mode, hmode, h⟩ := Option.bind_eq_some_iff.1 h
  obtain rfl := Option.some.inj h
  simp only [members, holds_cons, holds_nil, and_true]
  exact ⟨field?_of_texts hgiven (by simp [members]) hservices,
    field?_of_text hgiven (by simp [members]) hartifactDir,
    field?_of_text hgiven (by simp [members]) hcontainer,
    field?_of_map hordered (fun _ _ => eq_of_string?) hgiven (by simp [members]) hpodStems,
    field?_of_text hgiven (by simp [members]) hsettingsConfigMap,
    field?_of_text hgiven (by simp [members]) hsettingsKey,
    field?_of_text hgiven (by simp [members]) hsharedClaim,
    field?_of_text hgiven (by simp [members]) hscratchDir,
    field?_of_nat hgiven (by simp [members]) hmaxRedos,
    field?_of_bool hgiven (by simp [members]) hskipOnMaster,
    field?_of_text hgiven (by simp [members]) hmode⟩

theorem Tools.holds_of_read? {d t : Tools} (hcovers : Covers d.members value)
    (h : Tools.read? valueReader d value = some t) : Holds t.members value := by
  obtain ⟨fields, rfl, -, hgiven⟩ := hcovers
  obtain ⟨kubectl, hkubectl, h⟩ := Option.bind_eq_some_iff.1 h
  obtain ⟨curl, hcurl, h⟩ := Option.bind_eq_some_iff.1 h
  obtain ⟨md5sum, hmd5sum, h⟩ := Option.bind_eq_some_iff.1 h
  obtain ⟨cray, hcray, h⟩ := Option.bind_eq_some_iff.1 h
  obtain rfl := Option.some.inj h
  simp only [members, holds_cons, holds_nil, and_true]
  exact ⟨field?_of_text hgiven (by simp [members]) hkubectl,
    field?_of_text hgiven (by simp [members]) hcurl,
    field?_of_text hgiven (by simp [members]) hmd5sum,
    field?_of_text hgiven (by simp [members]) hcray⟩

theorem Gateway.holds_of_read? {d t : Gateway} (hcovers : Covers d.members value)
    (h : Gateway.read? valueReader d value = some t) : Holds t.members value := by
  obtain ⟨fields, rfl, -, hgiven⟩ := hcovers
  obtain ⟨baseUrl, hbaseUrl, h⟩ := Option.bind_eq_some_iff.1 h
  obtain ⟨tokenPath, htokenPath, h⟩ := Option.bind_eq_some_iff.1 h
  obtain ⟨clientId, hclientId, h⟩ := Option.bind_eq_some_iff.1 h
  obtain ⟨secretName, hsecretName, h⟩ := Option.bind_eq_some_iff.1 h
  obtain ⟨secretNamespace, hsecretNamespace, h⟩ := Option.bind_eq_some_iff.1 h
  obtain ⟨secretKey, hsecretKey, h⟩ := Option.bind_eq_some_iff.1 h
  obtain ⟨verifyCertificates, hverifyCertificates, h⟩ := Option.bind_eq_some_iff.1 h
  obtain ⟨timeoutSeconds, htimeoutSeconds, h⟩ := Option.bind_eq_some_iff.1 h
  obtain rfl := Option.some.inj h
  simp only [members, holds_cons, holds_nil, and_true]
  exact ⟨field?_of_text hgiven (by simp [members]) hbaseUrl,
    field?_of_text hgiven (by simp [members]) htokenPath,
    field?_of_text hgiven (by simp [members]) hclientId,
    field?_of_text hgiven (by simp [members]) hsecretName,
    field?_of_text hgiven (by simp [members]) hsecretNamespace,
    field?_of_text hgiven (by simp [members]) hsecretKey,
    field?_of_bool hgiven (by simp [members]) hverifyCertificates,
    field?_of_nat hgiven (by simp [members]) htimeoutSeconds⟩

theorem Ims.holds_of_read? {d t : Ims} (hcovers : Covers d.members value)
    (h : Ims.read? valueReader d value = some t) : Holds t.members value := by
  obtain ⟨fields, rfl, -, hgiven⟩ := hcovers
  obtain ⟨recipeName, hrecipeName, h⟩ := Option.bind_eq_some_iff.1 h
  obtain ⟨recipeDistro, hrecipeDistro, h⟩ := Option.bind_eq_some_iff.1 h
  obtain rfl := Option.some.inj h
  simp only [members, holds_cons, holds_nil, and_true]
  exact ⟨field?_of_optionalText hgiven (by simp [members]) hrecipeName,
    field?_of_text hgiven (by simp [members]) hrecipeDistro⟩

theorem Conman.holds_of_read? {d t : Conman} (hcovers : Covers d.members value)
    (h : Conman.read? valueReader d value = some t) : Holds t.members value := by
  obtain ⟨fields, rfl, -, hgiven⟩ := hcovers
  obtain ⟨container, hcontainer, h⟩ := Option.bind_eq_some_iff.1 h
  obtain ⟨expectedWaitingReason, hexpected, h⟩ := Option.bind_eq_some_iff.1 h
  obtain rfl := Option.some.inj h
  simp only [members, holds_cons, holds_nil, and_true]
  exact ⟨field?_of_text hgiven (by simp [members]) hcontainer,
    field?_of_optionalText hgiven (by simp [members]) hexpected⟩

theorem Logging.holds_of_read? {d t : Logging} (hcovers : Covers d.members value)
    (h : Logging.read? valueReader d value = some t) : Holds t.members value := by
  obtain ⟨fields, rfl, -, hgiven⟩ := hcovers
  obtain ⟨level, hlevel, h⟩ := Option.bind_eq_some_iff.1 h
  obtain ⟨format, hformat, h⟩ := Option.bind_eq_some_iff.1 h
  obtain ⟨dir, hdir, h⟩ := Option.bind_eq_some_iff.1 h
  obtain ⟨rotation, hrotation, h⟩ := Option.bind_eq_some_iff.1 h
  obtain rfl := Option.some.inj h
  simp only [members, holds_cons, holds_nil, and_true]
  exact ⟨field?_of_text hgiven (by simp [members]) hlevel,
    field?_of_text hgiven (by simp [members]) hformat,
    field?_of_optionalText hgiven (by simp [members]) hdir,
    field?_of_text hgiven (by simp [members]) hrotation⟩

/-- A section that is given is read from its value. -/
theorem exists_holds {fields : List (String × Json)} {name : String}
    {members members' : NameMap Json}
    {α : Type} {default t : α} {read : Json → Option α}
    (hgiven : ∃ value, fields.lookup name = some value ∧ Covers members value)
    (h : setting fields name default read = some t)
    (hread : ∀ value, Covers members value → read value = some t → Holds members' value) :
    ∃ value, (Json.object fields).field? name = some value ∧ Holds members' value := by
  obtain ⟨value, hvalue, hcovers⟩ := hgiven
  rw [setting, hvalue] at h
  exact ⟨value, (Json.field?_object fields name).trans hvalue, hread value hcovers h⟩

/-- All that is read from a document that gives every setting is there. -/
theorem holds_of_read? {d c : Config} {fields : List (String × Json)}
    (hnamespace : (fields.lookup "namespace").isSome = true)
    (hgiven : ∀ entry ∈ d.sections, ∃ value, fields.lookup entry.1 = some value ∧
      Covers entry.2 value)
    (h : read? valueReader d (.object fields) = some c) :
    (Json.object fields).field? "namespace" = some (.string c.nspace) ∧
      ∀ entry ∈ c.sections, ∃ value, (Json.object fields).field? entry.1 = some value ∧
        Holds entry.2 value := by
  obtain ⟨nspace, hnspace, h⟩ := Option.bind_eq_some_iff.1 h
  obtain ⟨timeouts, htimeouts, h⟩ := Option.bind_eq_some_iff.1 h
  obtain ⟨transfers, htransfers, h⟩ := Option.bind_eq_some_iff.1 h
  obtain ⟨tools, htools, h⟩ := Option.bind_eq_some_iff.1 h
  obtain ⟨gateway, hgateway, h⟩ := Option.bind_eq_some_iff.1 h
  obtain ⟨ims, hims, h⟩ := Option.bind_eq_some_iff.1 h
  obtain ⟨conman, hconman, h⟩ := Option.bind_eq_some_iff.1 h
  obtain ⟨logging, hlogging, h⟩ := Option.bind_eq_some_iff.1 h
  obtain rfl := Option.some.inj h
  have hgivenNames : ∀ name ∈ ["namespace"], (fields.lookup name).isSome = true :=
    List.forall_mem_singleton.2 hnamespace
  have htext := field?_of_text hgivenNames List.mem_cons_self hnspace
  refine ⟨htext, ?_⟩
  simp only [sections, List.forall_mem_cons, List.not_mem_nil, IsEmpty.forall_iff, implies_true,
    and_true] at hgiven ⊢
  obtain ⟨gtimeouts, gtransfers, gtools, ggateway, gims, gconman, glogging⟩ := hgiven
  exact ⟨exists_holds gtimeouts htimeouts fun _ => Timeouts.holds_of_read?,
    exists_holds gtransfers htransfers fun _ => Transfers.holds_of_read?,
    exists_holds gtools htools fun _ => Tools.holds_of_read?,
    exists_holds ggateway hgateway fun _ => Gateway.holds_of_read?,
    exists_holds gims hims fun _ => Ims.holds_of_read?,
    exists_holds gconman hconman fun _ => Conman.holds_of_read?,
    exists_holds glogging hlogging fun _ => Logging.holds_of_read?⟩

end Sections

/-! What the document that a configuration makes up has at its paths. -/
section Paths
variable {c : Config} {name member : String} {members : NameMap Json} {value json : Json}

theorem nodup_members_map (c : Config) : (c.members.map Prod.fst).Nodup := by
  have hnames : (default.members.map Prod.fst).Nodup := by decide
  exact hnames

theorem at?_toJson_namespace (c : Config) :
    c.toJson.at? ["namespace"] = some (.string c.nspace) := by
  have hfield : c.toJson.field? "namespace" = some (.string c.nspace) :=
    Json.field?_ofFields (nodup_members_map c) List.mem_cons_self
  rw [Json.at?, hfield]
  rfl

theorem field?_toJson_section (hsection : (name, members) ∈ c.sections) :
    c.toJson.field? name = some (.ofFields members) := by
  refine Json.field?_ofFields (nodup_members_map c) ?_
  rw [members_eq]
  exact List.mem_cons_of_mem _ (List.mem_map.2 ⟨_, hsection, rfl⟩)

theorem at?_toJson_member (hsection : (name, members) ∈ c.sections)
    (hmember : (member, value) ∈ members) (rest : List String) :
    c.toJson.at? (name :: member :: rest) = value.at? rest := by
  have hinner : (Json.ofFields members).field? member = some value :=
    Json.field?_ofFields (nodup_members hsection) hmember
  rw [Json.at?, field?_toJson_section hsection, Option.bind_some, Json.at?, hinner,
    Option.bind_some]

theorem Holds.at? (h : Holds members value) (hvalue : json.field? name = some value) {inner : Json}
    (hmember : (member, inner) ∈ members) (rest : List String) :
    json.at? (name :: member :: rest) = inner.at? rest := by
  have hinner : value.field? member = some inner := h _ hmember
  rw [Json.at?, hvalue, Option.bind_some, Json.at?, hinner, Option.bind_some]

end Paths
end ClusterHealth.Config
