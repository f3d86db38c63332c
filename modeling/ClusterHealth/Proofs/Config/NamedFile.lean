import ClusterHealth.Proofs.Config.Document

/-!
A file that is named for loading. It counts if it is found, where it is or in a directory above;
else it may be passed over without a word.
-/
namespace ClusterHealth

namespace FileTree
variable {t : FileTree} {dir : Path} {path : String}

theorem mem_upward_self (dir : Path) : dir ∈ upward dir :=
  List.mem_map.2 ⟨0, List.mem_range.2 (Nat.succ_pos _), by rw [Nat.sub_zero, List.take_length]⟩

/-- Without a file nothing but a directory can lie there. -/
theorem leadsSomewhere_of_search_eq_none (h : t.search dir path = none) :
    t.leadsSomewhere dir path = (t.locate? dir path).any t.isDir := by
  have hfile : t.fileAt? dir path = none :=
    List.findSome?_eq_none_iff.1 h dir (mem_upward_self dir)
  unfold leadsSomewhere
  cases hplace : t.locate? dir path with
  | none => rfl
  | some place =>
    have hnone : t.file? place = none := by
      rwa [fileAt?, hplace, Option.bind_eq_bind, Option.bind_some] at hfile
    rw [Option.any_some, Option.any_some, hnone, Option.isSome_none, Bool.or_false]

end FileTree

theorem Yaml.exists_object_of_objectOf? {text : String} {json : Json}
    (h : Yaml.objectOf? text = some json) : ∃ fields, json = .object fields := by
  obtain ⟨d, -, hobject⟩ := Option.bind_eq_some_iff.1 h
  obtain ⟨entries, -, hrun⟩ := Option.bind_eq_some_iff.1 hobject
  obtain ⟨⟨value, rest⟩, hvalue, rfl⟩ := Option.map_eq_some_iff.1 hrun
  have hmeans : d.Means (.mapping none entries) value := ⟨_, _, rest, hvalue⟩
  obtain ⟨fields, -, hfields⟩ := hmeans.shape
  exact ⟨_, hfields⟩

namespace Config
variable {tree : FileTree} {dir : Path} {env : Environment} {path : String} {c : Config}

/-- Scratch files may lie anywhere. -/
theorem validate_withScratchDir (c : Config) (dir : String) :
    ({ c with transfers := { c.transfers with scratchDir := dir } } : Config).validate =
      c.validate := rfl

theorem validate_defaultIn (env : Environment) : (defaultIn env).validate = .ok () := by
  have hdefault : default.validate = .ok () := rfl
  exact (validate_withScratchDir default _).trans hdefault

/-- The defaults are read back from the document that they make up. -/
theorem read?_defaultIn (env : Environment) :
    read? valueReader (defaultIn env) (defaultIn env).toJson = some (defaultIn env) := rfl

/-- The layers make up a configuration, and it is accepted. -/
def MadeOf (env : Environment) (layers : List Json) (c : Config) : Prop :=
  ofLayers? env layers = some c ∧ c.validate = .ok ()

theorem validated_eq_ok_iff {found : Config} :
    validated found = .ok c ↔ found = c ∧ c.validate = .ok () := by
  unfold validated
  constructor
  · intro h
    split at h
    · cases h
    · rename_i hvalid
      obtain rfl := Except.ok.inj h
      exact ⟨rfl, hvalid⟩
  · intro h
    obtain ⟨rfl, hvalid⟩ := h
    rw [hvalid]

theorem loadFile_eq_ok_iff : loadFile tree dir env path = .ok c ↔
    ∃ file, fileLayer? tree dir path = some file ∧ MadeOf env [file] c := by
  unfold loadFile MadeOf
  cases hfile : fileLayer? tree dir path with
  | none => exact iff_of_false nofun nofun
  | some file =>
    rw [Option.bind_some]
    cases hfound : ofLayers? env [file] with
    | none => simp [hfound]
    | some found => simp [hfound, validated_eq_ok_iff]

/-- An object without fields changes nothing. -/
theorem overlay_empty {under : Json} (h : ∃ fields, under = .object fields) :
    overlay under (.object []) = under := by
  obtain ⟨fields, rfl⟩ := h
  rw [overlay, overlayFields]

theorem exists_object_of_fileLayer? {file : Json} (h : fileLayer? tree dir path = some file) :
    ∃ fields, file = .object fields := by
  unfold fileLayer? at h
  split at h
  · exact Yaml.exists_object_of_objectOf? h
  · exact ⟨[], (Option.some.inj h).symm⟩

theorem ofLayers?_empty (env : Environment) :
    ofLayers? env [.object []] = some (defaultIn env) := by
  have hover : overlay (defaultIn env).toJson (.object []) = (defaultIn env).toJson :=
    overlay_empty ⟨_, rfl⟩
  rw [ofLayers?, List.foldl_cons, hover]
  exact read?_defaultIn env

theorem ofLayers?_between {project : Json} (h : ∃ fields, project = .object fields)
    (overrides : List Json) :
    ofLayers? env (project :: .object [] :: overrides) = ofLayers? env (project :: overrides) := by
  have hover : overlay (overlay (defaultIn env).toJson project) (.object []) =
      overlay (defaultIn env).toJson project := by
    obtain ⟨fields, rfl⟩ := h
    exact overlay_empty ⟨_, by rw [toJson, Json.ofFields, overlay]⟩
  unfold ofLayers?
  dsimp only
  rw [List.foldl_cons, List.foldl_cons, hover, List.foldl_cons]

/-- The overrides that variables make up, if none of them is broken. -/
def overrides? (env : Environment) : Option (List Json) :=
  [Environment.recipePath?, Environment.settingPath?].mapM (env.layer? ·)

/-- The configuration in several files, whether they are there or not. -/
def loadAll (tree : FileTree) (dir : Path) (env : Environment) (files : List String) :
    Except LoadError Config := do
  let some overrides := overrides? env
    | throw .brokenVariable
  let some c := (files.mapM (fileLayer? tree dir)).bind fun files =>
      ofLayers? env (files ++ overrides)
    | throw .layers
  validated c

theorem load_none : load tree dir env none = loadAll tree dir env [projectFile] := rfl

/-- An additional file has to lead somewhere, if only to a directory. -/
theorem load_some : load tree dir env (some path) =
    if tree.leadsSomewhere dir path then loadAll tree dir env [projectFile, path]
    else .error (.noSuchFile path) := by
  unfold load
  dsimp only
  cases tree.leadsSomewhere dir path with
  | false => rfl
  | true =>
    rw [Bool.not_true, if_neg Bool.false_ne_true, if_pos rfl]
    rfl

theorem loadAll_eq_ok_iff {files : List String} : loadAll tree dir env files = .ok c ↔
    ∃ overrides layers, overrides? env = some overrides ∧
      files.mapM (fileLayer? tree dir) = some layers ∧ MadeOf env (layers ++ overrides) c := by
  unfold loadAll MadeOf
  constructor
  · intro h
    split at h
    · rename_i overrides hoverrides
      split at h
      · rename_i found hfound
        obtain ⟨layers, hlayers, hread⟩ := Option.bind_eq_some_iff.1 hfound
        obtain ⟨rfl, hvalid⟩ := validated_eq_ok_iff.1 h
        exact ⟨overrides, layers, hoverrides, hlayers, hread, hvalid⟩
      · cases h
    · cases h
  · intro h
    obtain ⟨overrides, layers, hoverrides, hlayers, hread, hvalid⟩ := h
    rw [hoverrides]
    dsimp only
    rw [hlayers, Option.bind_some, hread]
    exact validated_eq_ok_iff.2 ⟨rfl, hvalid⟩

theorem load_some_eq_ok_iff : load tree dir env (some path) = .ok c ↔
    tree.leadsSomewhere dir path = true ∧ ∃ project file overrides,
      fileLayer? tree dir projectFile = some project ∧ fileLayer? tree dir path = some file ∧
      overrides? env = some overrides ∧ MadeOf env (project :: file :: overrides) c := by
  have hlayers {layers : List Json} :
      [projectFile, path].mapM (fileLayer? tree dir) = some layers ↔ ∃ project file,
        fileLayer? tree dir projectFile = some project ∧ fileLayer? tree dir path = some file ∧
          [project, file] = layers := by
    simp [Option.bind_eq_some_iff]
  rw [load_some]
  split
  · rename_i hplace
    rw [loadAll_eq_ok_iff]
    constructor
    · intro h
      obtain ⟨overrides, layers, hoverrides, hfiles, hmade⟩ := h
      obtain ⟨project, file, hproject, hfile, rfl⟩ := hlayers.1 hfiles
      exact ⟨hplace, project, file, overrides, hproject, hfile, hoverrides, hmade⟩
    · intro h
      obtain ⟨-, project, file, overrides, hproject, hfile, hoverrides, hmade⟩ := h
      exact ⟨overrides, _, hoverrides, hlayers.2 ⟨project, file, hproject, hfile, rfl⟩, hmade⟩
  · rename_i hplace
    exact iff_of_false nofun fun h => hplace h.1

/-- A file that is not found leaves no trace. -/
theorem loadAll_of_search_eq_none (h : tree.search dir path = none) :
    loadAll tree dir env [projectFile, path] = loadAll tree dir env [projectFile] := by
  have hfile : fileLayer? tree dir path = some (.object []) := by rw [fileLayer?, h]
  have hlayers (overrides : List Json) :
      (([projectFile, path].mapM (fileLayer? tree dir)).bind fun files =>
          ofLayers? env (files ++ overrides)) =
        ([projectFile].mapM (fileLayer? tree dir)).bind fun files =>
          ofLayers? env (files ++ overrides) := by
    cases hproject : fileLayer? tree dir projectFile with
    | none => simp [hproject]
    | some project =>
      have hobject := exists_object_of_fileLayer? hproject
      simp [hproject, hfile, ofLayers?_between hobject]
  unfold loadAll
  simp only [hlayers]

/-- A named file that is found lies over the project file, and nothing but variables lies over it.
One that is not found is passed over: alone it leaves the defaults, and as an additional file it is
only refused if its name does not even lead to a directory. -/
theorem namedFile_outcome (tree : FileTree) (dir : Path) (env : Environment) (path : String) :
    match tree.search dir path with
    | some text =>
      (∀ c, loadFile tree dir env path = .ok c ↔
        ∃ document, Yaml.objectOf? text = some document ∧ MadeOf env [document] c) ∧
      ∀ c, load tree dir env (some path) = .ok c ↔
        tree.leadsSomewhere dir path = true ∧ ∃ project document overrides,
          fileLayer? tree dir projectFile = some project ∧ Yaml.objectOf? text = some document ∧
          overrides? env = some overrides ∧ MadeOf env (project :: document :: overrides) c
    | none =>
      loadFile tree dir env path = .ok (defaultIn env) ∧
      load tree dir env (some path) =
        if (tree.locate? dir path).any tree.isDir then load tree dir env none
        else .error (.noSuchFile path) := by
  cases hsearch : tree.search dir path with
  | some text =>
    have hfile : fileLayer? tree dir path = Yaml.objectOf? text := by rw [fileLayer?, hsearch]
    dsimp only
    refine ⟨fun c => ?_, fun c => ?_⟩
    · rw [loadFile_eq_ok_iff, hfile]
    · rw [load_some_eq_ok_iff, hfile]
  | none =>
    have hfile : fileLayer? tree dir path = some (.object []) := by rw [fileLayer?, hsearch]
    have hdefault : MadeOf env [.object []] (defaultIn env) :=
      ⟨ofLayers?_empty env, validate_defaultIn env⟩
    refine ⟨loadFile_eq_ok_iff.2 ⟨_, hfile, hdefault⟩, ?_⟩
    rw [load_some, FileTree.leadsSomewhere_of_search_eq_none hsearch,
      loadAll_of_search_eq_none hsearch, load_none]

/-- A name that leads nowhere may be passed over, and so may a directory. -/
theorem exists_named_file_passed_over :
    (¬∀ tree dir env path c, loadFile tree dir env path = .ok c →
        ∃ text, tree.search dir path = some text) ∧
      ¬∀ tree dir env path c, load tree dir env (some path) = .ok c →
        ∃ text, tree.search dir path = some text := by
  have hdefault : MadeOf [] [.object []] (defaultIn []) :=
    ⟨ofLayers?_empty [], validate_defaultIn []⟩
  constructor
  · intro h
    have hloaded : loadFile ⟨[], [], false⟩ [] [] "absent.yaml" = .ok (defaultIn []) :=
      loadFile_eq_ok_iff.2 ⟨_, rfl, hdefault⟩
    obtain ⟨text, htext⟩ := h _ _ _ _ _ hloaded
    exact nomatch htext
  · intro h
    have hlayers : MadeOf [] [.object [], .object [], .object [], .object []] (defaultIn []) := by
      have hobject : ∃ fields, Json.object [] = .object fields := ⟨[], rfl⟩
      refine ⟨?_, validate_defaultIn []⟩
      rw [ofLayers?_between hobject, ofLayers?_between hobject, ofLayers?_between hobject,
        ofLayers?_empty]
    have hloaded : load ⟨[["conf.d"]], [], false⟩ [] [] (some "conf.d") = .ok (defaultIn []) :=
      load_some_eq_ok_iff.2 ⟨rfl, _, _, _, rfl, rfl, rfl, hlayers⟩
    obtain ⟨text, htext⟩ := h _ _ _ _ _ hloaded
    exact nomatch htext

end Config
end ClusterHealth
