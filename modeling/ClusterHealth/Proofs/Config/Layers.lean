import ClusterHealth.Proofs.Config.Sections
import ClusterHealth.Proofs.Config.Sources
import Mathlib.Data.List.Infix

/-! Settings in layers: every setting has the value that the last of its sources gives it, and a
source that does not set it does not change it. -/
namespace ClusterHealth.Config
open Json (Ordered Through lastAt?)

/-- Ways to the maps, whose entries may have any names. -/
def maps : List (List String) := [["timeouts", "per_service"], ["transfer", "ipxe_pod_prefixes"]]

/-- Ways to all that has parts: the whole configuration, its sections, and its maps. -/
def branches : List (List String) := [] :: outline.map (fun (name, _) => [name]) ++ maps

/-- Whatever a document has for a section or a map is an object. -/
def Mapped (document : Json) : Prop :=
  ∀ branch ∈ branches, (document.at? branch).all Json.isObject = true

/-- A path leads to a setting that has no parts, or to an entry of a map. -/
inductive IsLeaf : List String → Prop
  | nspace : IsLeaf ["namespace"]
  | setting {name member : String} {members : List String}
      (hsection : (name, members) ∈ outline) (hmember : member ∈ members)
      (hmap : [name, member] ∉ maps) : IsLeaf [name, member]
  | entry {map : List String} (hmap : map ∈ maps) (name : String) : IsLeaf (map ++ [name])

variable {path : List String} {document : Json} {documents : List Json} {c : Config}

instance : Decidable (Mapped document) :=
  inferInstanceAs (Decidable (∀ branch ∈ branches, _))

/-! On the way to a leaf there are branches only. -/

theorem mem_branches_of_front {branch front : List String} (hbranch : branch ∈ branches)
    (hfront : front <+: branch) : front ∈ branches := by
  have hclosed : ∀ branch ∈ branches, ∀ front ∈ branch.inits, front ∈ branches := by decide
  exact hclosed branch hbranch front ((List.mem_inits front branch).2 hfront)

theorem Mapped.through_branch (h : Mapped document) {branch : List String}
    (hbranch : branch ∈ branches) : Through branch document :=
  fun front hfront _ => h front (mem_branches_of_front hbranch hfront)

theorem IsLeaf.exists_branch (h : IsLeaf path) :
    ∃ branch ∈ branches, ∃ name, path = branch ++ [name] := by
  cases h with
  | nspace => exact ⟨[], List.mem_cons_self, _, rfl⟩
  | @setting name member members hsection _ _ =>
    have hbranch : [name] ∈ outline.map fun (name, _) => [name] :=
      List.mem_map.2 ⟨_, hsection, rfl⟩
    exact ⟨[name], List.mem_append_left _ (List.mem_cons_of_mem _ hbranch), member, rfl⟩
  | @entry map hmap name => exact ⟨map, List.mem_append_right _ hmap, name, rfl⟩

theorem Mapped.through (h : Mapped document) {branch : List String} (hbranch : branch ∈ branches)
    (name : String) : Through (branch ++ [name]) document := by
  intro front hfront hne
  have hinner : front <+: branch := (List.prefix_concat_iff.1 hfront).resolve_left hne
  exact h front (mem_branches_of_front hbranch hinner)

theorem Mapped.through_leaf (h : Mapped document) (hleaf : IsLeaf path) :
    Through path document := by
  obtain ⟨branch, hbranch, name, rfl⟩ := hleaf.exists_branch
  exact h.through hbranch name

/-- Documents with objects for sections and maps have them when they lie over each other. -/
theorem Mapped.foldl {base : Json} (hbase : Mapped base)
    (h : ∀ document ∈ documents, Ordered document ∧ Mapped document) :
    Mapped (documents.foldl overlay base) := fun branch hbranch =>
  Json.isObject_at?_foldl (hbase branch hbranch)
    (fun document hmem => (h document hmem).2 branch hbranch)
    fun document hmem => ⟨(h document hmem).1, (h document hmem).2.through_branch hbranch⟩

/-! What a configuration has at its leaves. -/

@[simp] theorem object?_optionalJson (text : Option String) :
    (optionalJson text).object? = none := by
  cases text <;> rfl

/-- An object without objects in it. -/
def Flat (value : Json) : Prop :=
  Ordered value ∧ ∀ name inner, value.field? name = some inner → inner.object? = none

theorem flat_mapJson {α : Type} {write : α → Json} (m : NameMap α)
    (hwrite : ∀ x, (write x).object? = none) : Flat (mapJson write m) := by
  have hatom (entry : String × Json)
      (hentry : entry ∈ m.map fun entry => (entry.1, write entry.2)) :
      entry.2.object? = none := by
    obtain ⟨member, -, rfl⟩ := List.mem_map.1 hentry
    exact hwrite member.2
  rw [mapJson_eq]
  refine ⟨.ofFields fun entry hentry => .atom (hatom entry hentry), fun name inner hinner => ?_⟩
  exact hatom _ (Json.mem_of_field?_ofFields hinner)

theorem flat_ofNat (m : NameMap Nat) : Flat (mapJson Json.ofNat m) := flat_mapJson m fun _ => rfl

theorem flat_string (m : NameMap String) : Flat (mapJson Json.string m) :=
  flat_mapJson m fun _ => rfl

/-- Members have no fields, but for the maps, and these have no more than one level. -/
theorem members_flat (c : Config) : ∀ entry ∈ c.sections, ∀ inner ∈ entry.2,
    if [entry.1, inner.1] ∈ maps then Flat inner.2 else inner.2.object? = none := by
  simp only [sections, Timeouts.members, Transfers.members, Tools.members, Gateway.members,
    Ims.members, Conman.members, Logging.members, List.forall_mem_cons, List.not_mem_nil,
    IsEmpty.forall_iff, implies_true, and_true]
  simp [maps, flat_ofNat, flat_string]

theorem flat_of_map {name member : String} {members : NameMap Json} {value : Json}
    (hsection : (name, members) ∈ c.sections) (hvalue : (member, value) ∈ members)
    (hmap : [name, member] ∈ maps) : Flat value := by
  have hflat := members_flat c _ hsection _ hvalue
  rwa [if_pos hmap] at hflat

theorem object?_of_setting {name member : String} {members : NameMap Json} {value : Json}
    (hsection : (name, members) ∈ c.sections) (hvalue : (member, value) ∈ members)
    (hmap : [name, member] ∉ maps) : value.object? = none := by
  have hatom := members_flat c _ hsection _ hvalue
  rwa [if_neg hmap] at hatom

theorem ordered_toJson (c : Config) : Ordered c.toJson := by
  refine .ofFields ?_
  rw [members_eq]
  refine List.forall_mem_cons.2 ⟨.atom rfl, fun entry hentry => ?_⟩
  obtain ⟨⟨name, members⟩, hsection, rfl⟩ := List.mem_map.1 hentry
  refine .ofFields fun inner hinner => ?_
  by_cases hmap : [name, inner.1] ∈ maps
  · exact (flat_of_map hsection hinner hmap).1
  · exact .atom (object?_of_setting hsection hinner hmap)

/-- A leaf is the namespace or lies in a section, where the section may be of any configuration. -/
theorem IsLeaf.cases (h : IsLeaf path) (c : Config) :
    path = ["namespace"] ∨ ∃ name members member value rest, (name, members) ∈ c.sections ∧
      (member, value) ∈ members ∧ path = name :: member :: rest ∧
      ∀ leaf, value.at? rest = some leaf → leaf.object? = none := by
  have hmember {name member : String} {names : List String} (hsection : (name, names) ∈ outline)
      (hname : member ∈ names) :
      ∃ members value, (name, members) ∈ c.sections ∧ (member, value) ∈ members := by
    rw [← outline_sections c] at hsection
    obtain ⟨⟨_, members⟩, hmem, heq⟩ := List.mem_map.1 hsection
    obtain ⟨rfl, rfl⟩ := Prod.mk.inj heq
    obtain ⟨⟨_, value⟩, hvalue, rfl⟩ := List.mem_map.1 hname
    exact ⟨members, value, hmem, hvalue⟩
  cases h with
  | nspace => exact .inl rfl
  | @setting name member names hsection hname hmap =>
    obtain ⟨members, value, hsection, hvalue⟩ := hmember hsection hname
    refine .inr ⟨name, members, member, value, [], hsection, hvalue, rfl, fun leaf hleaf => ?_⟩
    obtain rfl := Option.some.inj hleaf
    exact object?_of_setting hsection hvalue hmap
  | @entry map hmap key =>
    have hknown : ∀ map ∈ maps, ∃ name names member, map = [name, member] ∧
        (name, names) ∈ outline ∧ member ∈ names := by
      refine List.forall_mem_cons.2 ⟨⟨_, _, _, rfl, List.mem_cons_self, by decide⟩,
        List.forall_mem_singleton.2 ⟨_, _, _, rfl, List.mem_cons_of_mem _ List.mem_cons_self,
          by decide⟩⟩
    obtain ⟨name, names, member, rfl, hsection, hname⟩ := hknown map hmap
    obtain ⟨members, value, hsection, hvalue⟩ := hmember hsection hname
    refine .inr ⟨name, members, member, value, [key], hsection, hvalue, rfl, fun leaf hleaf => ?_⟩
    have hflat := flat_of_map hsection hvalue hmap
    obtain ⟨inner, hinner, hleaf⟩ := Option.bind_eq_some_iff.1 hleaf
    obtain rfl := Option.some.inj hleaf
    exact hflat.2 key inner hinner

/-! What is read from documents over each other. -/
section Reading
variable {base : Json} {d : Config} {name : String} {members : NameMap Json}

theorem mem_branches_of_section (h : (name, members) ∈ c.sections) : [name] ∈ branches := by
  exact List.mem_append_left _ (List.mem_cons_of_mem _ (List.mem_map.2 ⟨_, mem_outline h, rfl⟩))

/-- Documents over defaults leave out nothing that the defaults have. -/
theorem isSome_at?_foldl (h : ∀ document ∈ documents, Ordered document ∧ Mapped document)
    {branch : List String} (hbranch : branch ∈ branches) {value : Json}
    (hvalue : base.at? (branch ++ [name]) = some value) :
    ((documents.foldl overlay base).at? (branch ++ [name])).isSome = true := by
  refine Json.isSome_at?_foldl (hvalue ▸ rfl) fun document hmem => ?_
  exact ⟨(h document hmem).1, (h document hmem).2.through hbranch name⟩

/-- Documents over defaults give everything that the defaults give. -/
theorem covers_foldl (hd : Mapped d.toJson)
    (h : ∀ document ∈ documents, Ordered document ∧ Mapped document) {fields : List (String × Json)}
    (hfields : documents.foldl overlay d.toJson = .object fields)
    (hsection : (name, members) ∈ d.sections) :
    ∃ value, fields.lookup name = some value ∧ Covers members value := by
  have hbranch := mem_branches_of_section hsection
  have hroot : [] ∈ branches := List.mem_cons_self
  have hordered : Ordered (documents.foldl overlay d.toJson) :=
    (ordered_toJson d).foldl fun document hmem => (h document hmem).1
  have hmapped : Mapped (documents.foldl overlay d.toJson) := hd.foldl h
  have hthere : ((documents.foldl overlay d.toJson).at? [name]).isSome = true :=
    isSome_at?_foldl h hroot
      ((Json.at?_singleton _ name).trans (field?_toJson_section hsection))
  obtain ⟨value, hvalue⟩ := Option.isSome_iff_exists.1 hthere
  have hobject := hmapped [name] hbranch
  rw [hvalue] at hobject
  obtain ⟨inner, rfl⟩ := Json.isObject_iff_object?.1 hobject
  have hlookup : fields.lookup name = some (.object inner) := by
    rwa [hfields, Json.at?_singleton, Json.field?_object] at hvalue
  refine ⟨_, hlookup, inner, rfl, hordered.at? hvalue, fun _ hmember => ?_⟩
  obtain ⟨⟨member, json⟩, hjson, rfl⟩ := List.mem_map.1 hmember
  have hinner : ((documents.foldl overlay d.toJson).at? [name, member]).isSome = true :=
    isSome_at?_foldl h hbranch (at?_toJson_member hsection hjson [])
  have hsplit : (documents.foldl overlay d.toJson).at? [name, member] = inner.lookup member := by
    rw [hfields, Json.at?_cons_object, hlookup, Option.bind_some, Json.at?_singleton,
      Json.field?_object]
  rwa [hsplit] at hinner

/-- What is read from documents over defaults has, at a leaf, what the last of them has there. -/
theorem at?_of_foldl (hd : Mapped d.toJson)
    (h : ∀ document ∈ documents, Ordered document ∧ Mapped document)
    (hread : read? valueReader d (documents.foldl overlay d.toJson) = some c)
    (hleaf : IsLeaf path) :
    c.toJson.at? path = lastAt? path (d.toJson :: documents) ∧
      ∀ value, c.toJson.at? path = some value → value.object? = none := by
  have hmapped : Mapped (documents.foldl overlay d.toJson) := hd.foldl h
  have hroot : [] ∈ branches := List.mem_cons_self
  obtain ⟨fields, hfields⟩ :=
    Json.isObject_iff_object?.1 (hmapped [] hroot : Json.isObject _ = true)
  have hnamespace : (fields.lookup "namespace").isSome = true := by
    have hthere : ((documents.foldl overlay d.toJson).at? ["namespace"]).isSome = true :=
      isSome_at?_foldl h hroot (at?_toJson_namespace d)
    have hsplit : (documents.foldl overlay d.toJson).at? ["namespace"] =
        fields.lookup "namespace" := by
      rw [hfields, Json.at?_singleton, Json.field?_object]
    rwa [hsplit] at hthere
  have hkept := holds_of_read? hnamespace
    (fun entry hentry => covers_foldl hd h hfields hentry) (hfields ▸ hread)
  rw [← hfields] at hkept
  obtain ⟨htext, hsections⟩ := hkept
  have hsame : c.toJson.at? path = (documents.foldl overlay d.toJson).at? path ∧
      ∀ value, c.toJson.at? path = some value → value.object? = none := by
    rcases hleaf.cases c with rfl |
      ⟨name, members, member, value, rest, hsection, hmember, rfl, hatom⟩
    · rw [at?_toJson_namespace, Json.at?_singleton, htext]
      refine ⟨rfl, fun value hvalue => ?_⟩
      obtain rfl := Option.some.inj hvalue
      rfl
    · obtain ⟨found, hfound, hholds⟩ := hsections _ hsection
      rw [at?_toJson_member hsection hmember, hholds.at? hfound hmember]
      exact ⟨rfl, hatom⟩
  refine ⟨hsame.1.trans (Json.at?_foldl_overlay (fun document hmem => ?_) ?_), hsame.2⟩
  · exact ⟨(h document hmem).1, (h document hmem).2.through_leaf hleaf⟩
  · rw [← hsame.1]
    exact hsame.2

end Reading

section Loading
variable {tree : FileTree} {dir : Path} {env : Environment}
  {extra : Option String} {path? : String → Option String}

/-- The layer that variables of one kind make up. -/
theorem layer_ok {layer : Json} (h : Environment.layer? path? env = some layer)
    (hmapped : ∀ document ∈ assigned path? env, Mapped document) :
    Ordered layer ∧ Mapped layer := by
  obtain rfl := layer?_eq_foldl h
  refine ⟨Ordered.foldl (.object .nil nofun) fun document => ordered_of_mem_assigned, ?_⟩
  refine Mapped.foldl ?_ fun document hmem => ⟨ordered_of_mem_assigned hmem, hmapped document hmem⟩
  have hempty : ∀ branch ∈ branches, ((Json.object []).at? branch).all Json.isObject = true := by
    decide
  exact hempty

/-- A layer gives at a leaf what the last of its variables gives there. -/
theorem lastAt?_layer_eq {layer : Json} (h : Environment.layer? path? env = some layer)
    (hmapped : ∀ document ∈ assigned path? env, Mapped document) (hleaf : IsLeaf path)
    (hatom : ∀ value, lastAt? path (documents ++ [layer]) = some value → value.object? = none) :
    lastAt? path (documents ++ [layer]) = lastAt? path (documents ++ assigned path? env) := by
  obtain rfl := layer?_eq_foldl h
  cases path with
  | nil =>
    obtain ⟨branch, -, name, hnil⟩ := hleaf.exists_branch
    exact absurd hnil.symm (List.append_ne_nil_of_right_ne_nil branch (List.cons_ne_nil _ _))
  | cons name rest =>
    refine Json.lastAt?_layer (fun document hmem => ?_) hatom
    exact ⟨ordered_of_mem_assigned hmem, (hmapped document hmem).through_leaf hleaf⟩

/-- The same of both layers of variables. -/
theorem lastAt?_layers_eq {recipe settings : Json}
    (hrecipe : Environment.layer? Environment.recipePath? env = some recipe)
    (hrecipeMapped : ∀ document ∈ assigned Environment.recipePath? env, Mapped document)
    (hsettings : Environment.layer? Environment.settingPath? env = some settings)
    (hsettingsMapped : ∀ document ∈ assigned Environment.settingPath? env, Mapped document)
    (hleaf : IsLeaf path)
    (hatom : ∀ value, lastAt? path (documents ++ [recipe, settings]) = some value →
      value.object? = none) :
    lastAt? path (documents ++ [recipe, settings]) = lastAt? path
      (documents ++ (assigned Environment.recipePath? env ++
        assigned Environment.settingPath? env)) := by
  have hsplit : documents ++ [recipe, settings] = (documents ++ [recipe]) ++ [settings] := by simp
  have hlast : lastAt? path (documents ++ [recipe, settings]) =
      (lastAt? path (assigned Environment.settingPath? env)).or
        (lastAt? path (documents ++ [recipe])) := by
    rw [hsplit] at hatom ⊢
    rw [lastAt?_layer_eq hsettings hsettingsMapped hleaf hatom, Json.lastAt?_append]
  rw [hlast] at hatom
  rw [hlast, ← List.append_assoc,
    Json.lastAt?_append path _ (assigned Environment.settingPath? env)]
  -- Recipe variables matter only where no other variable sets the leaf.
  cases hset : lastAt? path (assigned Environment.settingPath? env) with
  | some value => rfl
  | none =>
    rw [hset, Option.none_or] at hatom
    rw [Option.none_or, Option.none_or]
    exact lastAt?_layer_eq hrecipe hrecipeMapped hleaf hatom

theorem at?_of_load (h : load tree dir env extra = .ok c)
    (hmapped : ∀ source ∈ sources tree dir env extra, Mapped source) (hleaf : IsLeaf path) :
    c.toJson.at? path = lastAt? path (sources tree dir env extra) := by
  obtain ⟨recipe, settings, hrecipe, hsettings, hread⟩ := exists_layers_of_load h
  unfold sources at hmapped ⊢
  generalize hfiles : (projectFile :: extra.toList).filterMap (fileLayer? tree dir) = files
    at hread hmapped ⊢
  obtain ⟨hunder, hvariables⟩ := List.forall_mem_append.1 hmapped
  obtain ⟨hbase, hfilesMapped⟩ := List.forall_mem_cons.1 hunder
  obtain ⟨hrecipeMapped, hsettingsMapped⟩ := List.forall_mem_append.1 hvariables
  have hdocuments : ∀ document ∈ files ++ [recipe, settings],
      Ordered document ∧ Mapped document := by
    refine List.forall_mem_append.2 ⟨fun file hfile => ?_, List.forall_mem_cons.2
      ⟨layer_ok hrecipe hrecipeMapped, List.forall_mem_singleton.2
        (layer_ok hsettings hsettingsMapped)⟩⟩
    obtain ⟨name, -, hname⟩ := List.mem_filterMap.1 (hfiles ▸ hfile)
    exact ⟨ordered_of_fileLayer? hname, hfilesMapped file hfile⟩
  obtain ⟨hlast, hatom⟩ := at?_of_foldl hbase hdocuments hread hleaf
  rw [hlast, ← List.cons_append] at hatom
  rw [hlast, ← List.cons_append]
  exact lastAt?_layers_eq hrecipe hrecipeMapped hsettings hsettingsMapped hleaf hatom

/-- Every leaf is as the last source that sets it has it. Of two loads whose sources are the same
but for some, a leaf that none of these sets is the same in both. -/
theorem load_layered (h : load tree dir env extra = .ok c)
    (hmapped : ∀ source ∈ sources tree dir env extra, Mapped source) :
    (∀ path, IsLeaf path → c.toJson.at? path = lastAt? path (sources tree dir env extra)) ∧
      ∀ tree' dir' env' extra' c' before changed changed' behind,
        load tree' dir' env' extra' = .ok c' →
        (∀ source ∈ sources tree' dir' env' extra', Mapped source) →
        sources tree dir env extra = before ++ changed ++ behind →
        sources tree' dir' env' extra' = before ++ changed' ++ behind →
        ∀ path, IsLeaf path → (∀ source ∈ changed ++ changed', source.at? path = none) →
          c.toJson.at? path = c'.toJson.at? path := by
  constructor
  · intro path hleaf
    exact at?_of_load h hmapped hleaf
  · intro tree' dir' env' extra' c' before changed changed' behind h' hmapped' hsources hsources'
      path hleaf hnone
    obtain ⟨hchanged, hchanged'⟩ := List.forall_mem_append.1 hnone
    calc c.toJson.at? path
        = lastAt? path (before ++ changed ++ behind) := hsources ▸ at?_of_load h hmapped hleaf
      _ = lastAt? path (before ++ behind) := Json.lastAt?_of_forall_none hchanged behind
      _ = lastAt? path (before ++ changed' ++ behind) :=
        (Json.lastAt?_of_forall_none hchanged' behind).symm
      _ = c'.toJson.at? path := hsources' ▸ (at?_of_load h' hmapped' hleaf).symm

/-- Another variable is another source. -/
theorem sources_append {name text : String} {source : Json} (hname : name ≠ "TMPDIR")
    (hrecipe : assignment? Environment.recipePath? (name, text) = none)
    (hsetting : assignment? Environment.settingPath? (name, text) = some source) :
    sources tree dir (env ++ [(name, text)]) extra = sources tree dir env extra ++ [source] := by
  have hdefault : defaultIn (env ++ [(name, text)]) = defaultIn env := by
    have hother : ("TMPDIR" == name) = false := beq_false_of_ne hname.symm
    have hlookup : (env ++ [(name, text)]).lookup "TMPDIR" = env.lookup "TMPDIR" := by
      rw [List.lookup_append, List.lookup_cons, hother]
      exact Option.or_none
    unfold defaultIn
    rw [hlookup]
  unfold sources assigned
  rw [hdefault, List.filterMap_append, List.filterMap_append, List.filterMap_cons_none hrecipe,
    List.filterMap_cons_some hsetting]
  simp

end Loading

/-- A directory with a project file and an additional one. -/
def layeredTree : FileTree where
  dirs := []
  files := [
    (["cmsdev.yaml"], "timeouts: {per_service: {ims: 20, cfs: 30}}"),
    (["extra.yaml"], "timeouts: {per_service: {ims: 40}}")]

/-- Variables that name a recipe and its distribution. -/
def recipeEnv : Environment :=
  [("IMS_RECIPE_NAME", "plain"), ("IMS_RECIPE_DISTRO", "leap")]

/-- The same with a name that counts for more. -/
def renamedEnv : Environment := recipeEnv ++ [("CMSDEV_IMS__RECIPE_NAME", "prefixed")]

theorem load_layered_twice :
    ∃ c c', load layeredTree [] recipeEnv (some "extra.yaml") = .ok c ∧
      load layeredTree [] renamedEnv (some "extra.yaml") = .ok c' ∧
      (c.toJson.at? ["ims", "recipe_name"]).bind Json.string? = some "plain" ∧
      (c'.toJson.at? ["ims", "recipe_name"]).bind Json.string? = some "prefixed" ∧
      (c.toJson.at? ["ims", "recipe_distro"]).bind Json.string? = some "leap" ∧
      c.toJson.at? ["ims", "recipe_distro"] = c'.toJson.at? ["ims", "recipe_distro"] ∧
      (c.toJson.at? ["timeouts", "per_service", "ims"]).bind (natOf? 100) = some 40 ∧
      (c.toJson.at? ["timeouts", "per_service", "cfs"]).bind (natOf? 100) = some 30 := by
  have hmembers : ("ims", ["recipe_name", "recipe_distro"]) ∈ outline := by decide
  have hname : IsLeaf ["ims", "recipe_name"] := .setting hmembers (by decide) (by decide)
  have hdistro : IsLeaf ["ims", "recipe_distro"] := .setting hmembers (by decide) (by decide)
  have hentry (name : String) : IsLeaf ["timeouts", "per_service", name] :=
    .entry List.mem_cons_self name
  have hloads (env : Environment)
      (hok : (load layeredTree [] env (some "extra.yaml")).isOk = true) :
      ∃ c, load layeredTree [] env (some "extra.yaml") = .ok c := by
    cases hload : load layeredTree [] env (some "extra.yaml") with
    | error e =>
      rw [hload] at hok
      cases hok
    | ok c => exact ⟨c, rfl⟩
  obtain ⟨c, hc⟩ := hloads recipeEnv (by decide +kernel)
  obtain ⟨c', hc'⟩ := hloads renamedEnv (by decide +kernel)
  have hadded : (assignment? Environment.settingPath?
      ("CMSDEV_IMS__RECIPE_NAME", "prefixed")).any (fun source =>
        (source.at? ["ims", "recipe_distro"]).isNone && decide (Mapped source)) = true := by
    decide +kernel
  obtain ⟨source, hsource, hadded⟩ := (Option.any_eq_true _ _).1 hadded
  obtain ⟨hnone, hmappedSource⟩ := Bool.and_eq_true_iff.1 hadded
  have hrecipe : assignment? Environment.recipePath? ("CMSDEV_IMS__RECIPE_NAME", "prefixed") =
      none := Option.isNone_iff_eq_none.1 (by decide +kernel)
  have hsources : sources layeredTree [] renamedEnv (some "extra.yaml") =
      sources layeredTree [] recipeEnv (some "extra.yaml") ++ [source] :=
    sources_append (by decide) hrecipe hsource
  have hmapped : ∀ source ∈ sources layeredTree [] recipeEnv (some "extra.yaml"),
      Mapped source := by
    decide +kernel
  have hmapped' : ∀ source ∈ sources layeredTree [] renamedEnv (some "extra.yaml"),
      Mapped source := by
    rw [hsources]
    exact List.forall_mem_append.2
      ⟨hmapped, List.forall_mem_singleton.2 (of_decide_eq_true hmappedSource)⟩
  obtain ⟨hplain, hleap, hims, hcfs⟩ :
      (lastAt? ["ims", "recipe_name"] (sources layeredTree [] recipeEnv
        (some "extra.yaml"))).bind Json.string? = some "plain" ∧
      (lastAt? ["ims", "recipe_distro"] (sources layeredTree [] recipeEnv
        (some "extra.yaml"))).bind Json.string? = some "leap" ∧
      (lastAt? ["timeouts", "per_service", "ims"] (sources layeredTree [] recipeEnv
        (some "extra.yaml"))).bind (natOf? 100) = some 40 ∧
      (lastAt? ["timeouts", "per_service", "cfs"] (sources layeredTree [] recipeEnv
        (some "extra.yaml"))).bind (natOf? 100) = some 30 := by
    decide +kernel
  have hprefixed : (lastAt? ["ims", "recipe_name"] (sources layeredTree [] renamedEnv
      (some "extra.yaml"))).bind Json.string? = some "prefixed" := by
    decide +kernel
  obtain ⟨hlast, hkept⟩ := load_layered hc hmapped
  obtain ⟨hlast', -⟩ := load_layered hc' hmapped'
  refine ⟨c, c', hc, hc', ?_, ?_, ?_, ?_, ?_, ?_⟩
  · rw [hlast _ hname]
    exact hplain
  · rw [hlast' _ hname]
    exact hprefixed
  · rw [hlast _ hdistro]
    exact hleap
  · refine hkept layeredTree [] renamedEnv (some "extra.yaml") c'
      (sources layeredTree [] recipeEnv (some "extra.yaml")) [] [source] [] hc' hmapped' ?_ ?_ _
      hdistro ?_
    · rw [List.append_nil, List.append_nil]
    · rw [List.append_nil]
      exact hsources
    · exact List.forall_mem_singleton.2 (Option.isNone_iff_eq_none.1 hnone)
  · rw [hlast _ (hentry "ims")]
    exact hims
  · rw [hlast _ (hentry "cfs")]
    exact hcfs

end ClusterHealth.Config
