import ClusterHealth.Proofs.Config.Reading

/-! Two ways to read the configuration in a file: over the defaults, and as the document that it
is. -/
namespace ClusterHealth.Config
open Json (insertFields)
open Yaml (Node Document)

section Sections
variable {d : Document} {node : Node} {json : Json}

def Timeouts.over (t under : Timeouts) : Timeouts :=
  { t with perService := insertFields t.perService under.perService }

def Transfers.over (t under : Transfers) : Transfers :=
  { t with podStems := insertFields t.podStems under.podStems }

theorem mapOf?_perService :
    mapOf? (natOf? (Nat.pow 2 64 - 1)) (mapJson .ofNat Timeouts.default.perService) =
      some Timeouts.default.perService := by
  decide +kernel

theorem mapOf?_podStems : mapOf? Json.string? (mapJson .string Transfers.default.podStems) =
    some Transfers.default.podStems := by
  decide +kernel

theorem insertFields_perService :
    insertFields Timeouts.default.perService Timeouts.default.perService =
      Timeouts.default.perService := by
  decide +kernel

theorem insertFields_podStems :
    insertFields Transfers.default.podStems Transfers.default.podStems =
      Transfers.default.podStems := by
  decide +kernel

theorem object?_of_natOf? {bound n : Nat} (h : natOf? bound json = some n) :
    json.object? = none := by
  cases json with
  | object => cases h
  | _ => rfl

theorem object?_of_string? {text : String} (h : json.string? = some text) :
    json.object? = none := by
  cases json with
  | object => cases h
  | _ => rfl

theorem Timeouts.read?_related (hd : d.common = true) (h : d.Gives node json) :
    Related (fun x y => y = if isSequence node then x else x.over .default)
      (Timeouts.read? (nodeReader d) .default node)
      (Timeouts.read? valueReader .default (overlay Timeouts.default.toJson json)) := by
  refine related_of_laid hd h (by rfl) (by decide) fun _ _ _ laid => ?_
  refine .bind_eq (laid.nat (by decide) rfl) fun _ => .bind_eq (laid.nat (by decide) rfl) fun _ =>
    .bind (laid.map hd rfl (fun _ _ hgives => nat_related hgives _)
      (fun _ _ => object?_of_natOf?) mapOf?_perService insertFields_perService) fun x y hxy => ?_
  refine related_some ?_
  rw [hxy]
  split <;> rfl

theorem Transfers.read?_related (hd : d.common = true) (h : d.Gives node json) (dir : String) :
    let default := { Transfers.default with scratchDir := dir }
    Related (fun x y => y = if isSequence node then x else x.over .default)
      (Transfers.read? (nodeReader d) default node)
      (Transfers.read? valueReader default (overlay default.toJson json)) := by
  have hredos : Transfers.default.maxRedos ≤ Nat.pow 2 32 - 1 := by decide
  refine related_of_laid hd h (by rfl) (by decide) fun _ _ _ laid => ?_
  refine .bind_eq (laid.texts hd rfl) fun _ => .bind_eq (laid.text rfl) fun _ =>
    .bind_eq (laid.text rfl) fun _ => .bind (laid.map hd rfl (fun _ _ => text_related)
      (fun _ _ => object?_of_string?) mapOf?_podStems insertFields_podStems) fun x y hxy => ?_
  refine .bind_eq (laid.text rfl) fun _ => .bind_eq (laid.text rfl) fun _ =>
    .bind_eq (laid.text rfl) fun _ => .bind_eq (laid.text rfl) fun _ =>
    .bind_eq (laid.nat hredos rfl) fun _ => .bind_eq (laid.bool rfl) fun _ =>
    .bind_eq (laid.text rfl) fun _ => related_some ?_
  rw [hxy]
  split <;> rfl

theorem Tools.read?_related (hd : d.common = true) (h : d.Gives node json) (c : Tools) :
    Related Eq (Tools.read? (nodeReader d) c node)
      (Tools.read? valueReader c (overlay c.toJson json)) := by
  refine related_of_laid hd h (by rfl) (by decide) fun _ _ _ laid => ?_
  exact .bind_eq (laid.text rfl) fun _ => .bind_eq (laid.text rfl) fun _ =>
    .bind_eq (laid.text rfl) fun _ => .bind_eq (laid.text rfl) fun _ => related_some rfl

theorem Gateway.read?_related (hd : d.common = true) (h : d.Gives node json) :
    Related Eq (Gateway.read? (nodeReader d) .default node)
      (Gateway.read? valueReader .default (overlay Gateway.default.toJson json)) := by
  refine related_of_laid hd h (by rfl) (by decide) fun _ _ _ laid => ?_
  exact .bind_eq (laid.text rfl) fun _ => .bind_eq (laid.text rfl) fun _ =>
    .bind_eq (laid.text rfl) fun _ => .bind_eq (laid.text rfl) fun _ =>
    .bind_eq (laid.text rfl) fun _ => .bind_eq (laid.text rfl) fun _ =>
    .bind_eq (laid.bool rfl) fun _ => .bind_eq (laid.nat (by decide) rfl) fun _ => related_some rfl

theorem Ims.read?_related (hd : d.common = true) (h : d.Gives node json) (c : Ims) :
    Related Eq (Ims.read? (nodeReader d) c node)
      (Ims.read? valueReader c (overlay c.toJson json)) := by
  refine related_of_laid hd h (by rfl) (by decide) fun _ _ _ laid => ?_
  exact .bind_eq (laid.optionalText rfl) fun _ => .bind_eq (laid.text rfl) fun _ => related_some rfl

theorem Conman.read?_related (hd : d.common = true) (h : d.Gives node json) (c : Conman) :
    Related Eq (Conman.read? (nodeReader d) c node)
      (Conman.read? valueReader c (overlay c.toJson json)) := by
  refine related_of_laid hd h (by rfl) (by decide) fun _ _ _ laid => ?_
  exact .bind_eq (laid.text rfl) fun _ => .bind_eq (laid.optionalText rfl) fun _ => related_some rfl

theorem Logging.read?_related (hd : d.common = true) (h : d.Gives node json) (c : Logging) :
    Related Eq (Logging.read? (nodeReader d) c node)
      (Logging.read? valueReader c (overlay c.toJson json)) := by
  refine related_of_laid hd h (by rfl) (by decide) fun _ _ _ laid => ?_
  exact .bind_eq (laid.text rfl) fun _ => .bind_eq (laid.text rfl) fun _ =>
    .bind_eq (laid.optionalText rfl) fun _ => .bind_eq (laid.text rfl) fun _ => related_some rfl

/-- Whether a section of the document is written as a list of its values. -/
def listed (d : Document) (name : String) : Bool :=
  ((entriesIn? d d.root).bind (·.lookup name)).any isSequence

/-- A configuration whose maps lie over those of the defaults, unless their sections are listed. -/
def overDefaults (d : Document) (c : Config) : Config :=
  { c with
    timeouts := if listed d "timeouts" then c.timeouts else c.timeouts.over .default
    transfers := if listed d "transfer" then c.transfers else c.transfers.over .default }

theorem entriesIn?_of_sectionIn? {names : List String} {tag : Option String}
    {entries : List (Node × Node)} {s : List (String × Node)}
    (h : sectionIn? d names (.mapping tag entries) = some s) :
    entriesIn? d (.mapping tag entries) = some s := by
  obtain ⟨found, hfound, hs⟩ := Option.bind_eq_some_iff.1 h
  rw [hfound, (Option.ite_none_right_eq_some.1 hs).2]

theorem read?_related (hd : d.common = true) {entries : List (Node × Node)}
    (hentries : d.root.entries? = some entries) (h : d.Gives (.mapping none entries) json)
    (env : Environment) :
    Related (fun x y => y = overDefaults d x)
      (read? (nodeReader d) (defaultIn env) (.mapping none entries))
      (read? valueReader (defaultIn env) (overlay (defaultIn env).toJson json)) := by
  refine related_of_laid hd h (by rfl) (by decide) fun s s' hs laid => ?_
  -- The root is no list, so that its sections lie over their defaults unless they are lists.
  have hlisted (name : String) : (s.lookup name).any isSequence = listed d name := by
    have hroot : entriesIn? d d.root = some s := by
      rw [← entriesIn?_of_sectionIn? hs, entriesIn?, entriesIn?, hentries]
      rfl
    rw [listed, hroot, Option.bind_some]
  refine .bind_eq (laid.text rfl) fun nspace => ?_
  refine .bind (laid.nested (P := fun b x y => y = if b then x else x.over .default) rfl
    (fun _ _ hgives => Timeouts.read?_related hd hgives) rfl) fun t t' ht => ?_
  refine .bind (laid.nested (P := fun b x y => y = if b then x else x.over .default) rfl
    (fun _ _ hgives => Transfers.read?_related hd hgives _) rfl) fun u u' hu => ?_
  refine .bind_eq (laid.nested (P := fun _ => Eq) rfl
    (fun _ _ hgives => Tools.read?_related hd hgives _) rfl) fun tools => ?_
  refine .bind_eq (laid.nested (P := fun _ => Eq) rfl
    (fun _ _ hgives => Gateway.read?_related hd hgives) rfl) fun gateway => ?_
  refine .bind_eq (laid.nested (P := fun _ => Eq) rfl
    (fun _ _ hgives => Ims.read?_related hd hgives _) rfl) fun ims => ?_
  refine .bind_eq (laid.nested (P := fun _ => Eq) rfl
    (fun _ _ hgives => Conman.read?_related hd hgives _) rfl) fun conman => ?_
  refine .bind_eq (laid.nested (P := fun _ => Eq) rfl
    (fun _ _ hgives => Logging.read?_related hd hgives _) rfl) fun logging => ?_
  refine related_some ?_
  rw [ht, hu, hlisted, hlisted]
  rfl

/-- A node with entries is a mapping of them, unless it is a scalar for no entries. -/
theorem eq_of_entries? {entries : List (Node × Node)} (h : node.entries? = some entries) :
    (∃ tag, node = .mapping tag entries) ∨
      entries = [] ∧ ∃ tag style text, node = .scalar tag style text := by
  cases node with
  | mapping tag found =>
    obtain rfl := Option.some.inj h
    exact .inl ⟨tag, rfl⟩
  | scalar tag style text =>
    obtain ⟨-, hnone⟩ := Option.ite_none_right_eq_some.1 h
    exact .inr ⟨(Option.some.inj hnone).symm, tag, style, text, rfl⟩
  | _ => cases h

theorem mapping_common (hd : d.common = true) {entries : List (Node × Node)}
    (hentries : d.root.entries? = some entries) :
    (Node.mapping none entries).common = true := by
  have hroot : d.root.common = true := (Bool.and_eq_true_iff.1 hd).1
  rcases eq_of_entries? hentries with ⟨tag, hnode⟩ | ⟨rfl, -⟩
  · rw [hnode] at hroot
    exact (Bool.and_eq_true_iff.1 hroot).2
  · rfl

/-- Only the entries of the root count. -/
theorem sectionIn?_root {entries : List (Node × Node)} (hentries : d.root.entries? = some entries)
    (names : List String) :
    sectionIn? d names (d.resolve d.root) = sectionIn? d names (.mapping none entries) := by
  rcases eq_of_entries? hentries with ⟨tag, hnode⟩ | ⟨rfl, tag, style, text, hnode⟩
  · rw [hnode]
    rfl
  · rw [hnode] at hentries ⊢
    have hnone : entriesIn? d (.scalar tag style text) = entriesIn? d (.mapping none []) := by
      rw [entriesIn?, hentries]
      rfl
    change (entriesIn? d (.scalar tag style text) >>= _) = _
    rw [hnone]
    rfl

end Sections

theorem eq_of_validated {c accepted : Config} (h : validated c = .ok accepted) : c = accepted := by
  unfold validated at h
  split at h
  · cases h
  · exact Except.ok.inj h

theorem exists_layer_of_loadFile {tree : FileTree} {dir : Path} {env : Environment} {path : String}
    {c : Config} (h : loadFile tree dir env path = .ok c) :
    ∃ file, fileLayer? tree dir path = some file ∧ ofLayers? env [file] = some c := by
  unfold loadFile at h
  split at h
  · rename_i found hfound
    obtain rfl := eq_of_validated h
    exact Option.bind_eq_some_iff.1 hfound
  · cases h

/-- The configuration in a file is the one that its document holds as it is, except that the maps
in it lie over those of the defaults. -/
theorem loadFile_eq_overDefaults (tree : FileTree) (dir : Path) (env : Environment) (path : String)
    {text : String} (hfile : tree.search dir path = some text) {d : Document}
    (hparse : Yaml.parse? text = some d) (hd : d.common = true) {loaded direct : Config}
    (hloaded : loadFile tree dir env path = .ok loaded)
    (hdirect : ofDocument? env text = some direct) : loaded = overDefaults d direct := by
  obtain ⟨json, hjson, hread⟩ := exists_layer_of_loadFile hloaded
  have hobject : d.object? = some json := by
    rw [fileLayer?, hfile] at hjson
    change (Yaml.parse? text).bind Document.object? = some json at hjson
    rwa [hparse, Option.bind_some] at hjson
  obtain ⟨entries, hentries, hroot⟩ := Option.bind_eq_some_iff.1 hobject
  obtain ⟨⟨value, rest⟩, hvalue, rfl⟩ := Option.map_eq_some_iff.1 hroot
  have hgives : d.Gives (.mapping none entries) value :=
    ⟨mapping_common hd hentries, .mapping none entries, rfl, _, _, rest, hvalue⟩
  have hdocument : read? (nodeReader d) (defaultIn env) (.mapping none entries) = some direct := by
    have hfields (names : List String) : (nodeReader d).fields? names (d.resolve d.root) =
        (nodeReader d).fields? names (.mapping none entries) := sectionIn?_root hentries names
    rw [ofDocument?, hparse, Option.bind_eq_bind, Option.bind_some, read?, hfields] at hdirect
    exact hdirect
  exact read?_related hd hentries hgives env direct loaded hdocument hread

/-- A document with one timeout for one service. -/
def tftpOnly : String := "timeouts:\n  per_service:\n    tftp: 600\n"

/-- A directory with that document in a file. -/
def tftpOnlyTree : FileTree := { dirs := [], files := [(["c.yaml"], tftpOnly)] }

theorem search_tftpOnly : tftpOnlyTree.search [] "c.yaml" = some tftpOnly := rfl

/-- The defaults with other timeouts for services. -/
def withPerService (perService : NameMap Nat) : Config :=
  { default with timeouts := { Timeouts.default with perService } }

theorem ofDocument?_tftpOnly : ofDocument? [] tftpOnly = some (withPerService [("tftp", 600)]) := by
  decide +kernel

theorem loadFile_tftpOnly : loadFile tftpOnlyTree [] [] "c.yaml" =
    .ok (withPerService (insertFields [("tftp", 600)] Timeouts.default.perService)) := by
  decide +kernel

theorem loadFile_eq_overDefaults_tftpOnly :
    ∃ d loaded direct, tftpOnlyTree.search [] "c.yaml" = some tftpOnly ∧
      Yaml.parse? tftpOnly = some d ∧ d.common = true ∧
      loadFile tftpOnlyTree [] [] "c.yaml" = .ok loaded ∧ ofDocument? [] tftpOnly = some direct ∧
      loaded = overDefaults d direct ∧
      loaded.timeouts.forService .bos = 300 ∧ direct.timeouts.forService .bos = 60 := by
  have hparse : (Yaml.parse? tftpOnly).any Document.common = true := by decide +kernel
  obtain ⟨d, hparse, hd⟩ := (Option.any_eq_true _ _).1 hparse
  exact ⟨d, _, _, search_tftpOnly, hparse, hd, loadFile_tftpOnly, ofDocument?_tftpOnly,
    loadFile_eq_overDefaults tftpOnlyTree [] [] "c.yaml" search_tftpOnly hparse hd
      loadFile_tftpOnly ofDocument?_tftpOnly, rfl, rfl⟩

/-- The two ways to read a file do not always agree. -/
theorem exists_loadFile_ne_ofDocument :
    ¬∀ (tree : FileTree) (dir : Path) (env : Environment) (path text : String)
      (loaded direct : Config), tree.search dir path = some text →
        loadFile tree dir env path = .ok loaded → ofDocument? env text = some direct →
          loaded = direct := by
  intro h
  have hsame := h tftpOnlyTree [] [] "c.yaml" tftpOnly _ _ search_tftpOnly loadFile_tftpOnly
    ofDocument?_tftpOnly
  exact absurd (congrArg (·.timeouts.forService .bos) hsame) (by decide)

end ClusterHealth.Config
