import ClusterHealth.Proofs.Config.NamedFile
import ClusterHealth.Proofs.Json.Paths

/-! What settings come from: the defaults, files and variables. Each source is a document of its
own, and the configuration is read from all of them over each other. -/
namespace ClusterHealth
open Json (Ordered Through lastAt?)

namespace Yaml
variable {d : Document} {json : Json}

theorem object?_plainValue (text : String) : (plainValue text).object? = none := by
  have hspells := plainValue_spells text
  generalize plainValue text = value at hspells
  rcases hspells with ⟨-, rfl⟩ | ⟨-, hspells⟩
  · rfl
  · cases hspells with
    | _ => rfl

theorem object?_untaggedValue (style : ScalarStyle) (text : String) :
    (untaggedValue style text).object? = none := by
  unfold untaggedValue
  split
  · exact object?_plainValue text
  · rfl

theorem object?_of_scalarValue? {tag : Option String} {style : ScalarStyle} {text : String}
    (h : scalarValue? tag style text = some json) : json.object? = none := by
  unfold scalarValue? at h
  split at h
  · obtain rfl := Option.some.inj h
    exact object?_untaggedValue style text
  · obtain ⟨_, -, rfl⟩ := Option.map_eq_some_iff.1 h
    rfl
  · obtain ⟨_, -, rfl⟩ := Option.map_eq_some_iff.1 h
    rfl
  · obtain ⟨_, -, rfl⟩ := Option.map_eq_some_iff.1 h
    rfl
  · obtain ⟨-, h⟩ := Option.ite_none_right_eq_some.1 h
    obtain rfl := Option.some.inj h
    rfl
  · obtain rfl := Option.some.inj h
    split
    · exact object?_untaggedValue style text
    · rfl

theorem ordered_named (h : Ordered json) (tag : Option String) : Ordered (named tag json) := by
  unfold named
  split
  · exact h.nested _
  · exact h

theorem exists_related_of_mem {α β : Type} {R : α → β → Prop} {items : List α} {values : List β}
    (h : List.Forall₂ R items values) {value : β} (hvalue : value ∈ values) :
    ∃ item, R item value := by
  induction h with
  | nil => cases hvalue
  | @cons item _ _ _ hfirst _ ih =>
    rcases List.mem_cons.1 hvalue with rfl | hvalue
    · exact ⟨item, hfirst⟩
    · exact ih hvalue

/-- By induction on how deep collections may still be nested. -/
theorem ordered_of_value? {depth left rest : Nat} {node : Node}
    (h : d.value? depth node left = some (json, rest)) : Ordered json := by
  induction depth using Nat.strong_induction_on generalizing node left json rest with
  | _ depth ih =>
    rw [Document.value?, Following.bind_eq_some_iff] at h
    obtain ⟨found, between, -, h⟩ := h
    cases found with
    | scalar tag style text =>
      obtain ⟨value, behind, hvalue, h⟩ := Following.bind_eq_some_iff.1 h
      cases h
      have hatom := object?_of_scalarValue? (Following.lift_eq_some_iff.1 hvalue).1
      exact ordered_named (.atom hatom) tag
    | sequence tag items =>
      cases depth with
      | zero => cases h
      | succ depth =>
        obtain ⟨values, behind, -, h⟩ := Following.bind_eq_some_iff.1 h
        cases h
        exact ordered_named (.atom rfl) tag
    | mapping tag entries =>
      cases depth with
      | zero => cases h
      | succ depth =>
        obtain ⟨fields, behind, hfields, h⟩ := Following.bind_eq_some_iff.1 h
        cases h
        refine ordered_named (.ofFields fun field hfield => ?_) tag
        have hread := Document.forall₂_of_mapM hfields
        obtain ⟨entry, before, after, hentry⟩ := exists_related_of_mem hread hfield
        obtain ⟨key, _, -, hentry⟩ := Following.bind_eq_some_iff.1 hentry
        obtain ⟨value, _, hvalue, hentry⟩ := Following.bind_eq_some_iff.1 hentry
        cases hentry
        exact ih depth (Nat.lt_succ_self depth) hvalue
    | reference number => cases h

theorem ordered_of_objectOf? {text : String} (h : objectOf? text = some json) : Ordered json := by
  obtain ⟨d, -, hobject⟩ := Option.bind_eq_some_iff.1 h
  obtain ⟨entries, -, hrun⟩ := Option.bind_eq_some_iff.1 hobject
  obtain ⟨⟨value, rest⟩, hvalue, rfl⟩ := Option.map_eq_some_iff.1 hrun
  exact ordered_of_value? hvalue

end Yaml

namespace Config

namespace VariableText

theorem exists_of_bind_eq_ok {α β : Type} {x : Reading α} {f : α → Reading β} {y : β}
    (h : x >>= f = .ok y) : ∃ a, x = .ok a ∧ f a = .ok y := by
  cases x with
  | error e => cases h
  | ok a => exact ⟨a, rfl, h⟩

theorem object?_bareValue (chars : List Char) : (bareValue chars).object? = none := by
  unfold bareValue
  dsimp only
  split <;> rfl

/-- Only tables have fields, and these are put into their order. -/
theorem ordered_of_read (fuel : Nat) :
    (∀ chars value rest, readValue fuel chars = .ok (value, rest) → Ordered value) ∧
      ∀ chars entries rest, readEntries fuel chars = .ok (entries, rest) →
        ∀ entry ∈ entries, Ordered entry.2 := by
  induction fuel with
  | zero =>
    refine ⟨fun chars value rest h => ?_, fun chars entries rest h => ?_⟩
    · cases h
    · cases h
  | succ fuel ih =>
    obtain ⟨ihvalue, ihentries⟩ := ih
    constructor
    · intro chars value rest h
      rw [readValue] at h
      split at h
      · cases h
        exact .atom rfl
      · cases h
        exact .atom rfl
      · obtain ⟨⟨entries, behind⟩, hentries, h⟩ := exists_of_bind_eq_ok h
        cases h
        exact .ofFields (ihentries _ _ _ hentries)
      · obtain ⟨_, -, h⟩ := exists_of_bind_eq_ok h
        cases h
        exact .atom rfl
      · obtain ⟨_, -, h⟩ := exists_of_bind_eq_ok h
        cases h
        exact .atom rfl
      · cases h
        exact .atom rfl
      · cases h
      · cases h
        exact .atom (object?_bareValue _)
    · intro chars entries rest h
      unfold readEntries at h
      split at h
      · cases h
      · cases h
        exact nofun
      · rename_i heq _
        obtain rfl := Nat.succ.inj heq
        obtain ⟨⟨key, behind⟩, -, h⟩ := exists_of_bind_eq_ok h
        dsimp only at h
        split at h
        · obtain ⟨⟨item, more⟩, hitem, h⟩ := exists_of_bind_eq_ok h
          have hfirst : Ordered item := ihvalue _ _ _ hitem
          dsimp only at h
          split at h
          · obtain ⟨⟨others, last⟩, hothers, h⟩ := exists_of_bind_eq_ok h
            cases h
            exact List.forall_mem_cons.2 ⟨hfirst, ihentries _ _ _ hothers⟩
          · cases h
            exact (List.forall_mem_singleton).2 hfirst
          · cases h
        · cases h

theorem ordered_of_value? {text : String} {value : Json} (h : value? text = some value) :
    Ordered value := by
  unfold value? at h
  dsimp only at h
  split at h
  · rename_i found hfound
    obtain rfl := Option.some.inj h
    exact (ordered_of_read _).1 _ _ _ hfound
  · obtain rfl := Option.some.inj h
    exact .atom rfl
  · obtain rfl := Option.some.inj h
    exact .atom rfl
  · cases h

end VariableText

/-- What a variable sets, as a document of its own, if `path?` selects it. -/
def assignment? (path? : String → Option String) (v : String × String) : Option Json := do
  some (Json.nested (← path? v.1) (← VariableText.value? v.2))

def assigned (path? : String → Option String) (env : Environment) : List Json :=
  env.filterMap (assignment? path?)

/-- All that settings come from, the undermost first: the defaults, the project file, an additional
file, recipe variables and all other variables, one by one. -/
def sources (tree : FileTree) (dir : Path) (env : Environment) (extra : Option String) :
    List Json :=
  (defaultIn env).toJson :: (projectFile :: extra.toList).filterMap (fileLayer? tree dir) ++
    (assigned Environment.recipePath? env ++ assigned Environment.settingPath? env)

variable {tree : FileTree} {dir : Path} {env : Environment} {extra : Option String}
  {path? : String → Option String} {c : Config}

theorem ordered_of_fileLayer? {path : String} {file : Json}
    (h : fileLayer? tree dir path = some file) : Ordered file := by
  unfold fileLayer? at h
  split at h
  · exact Yaml.ordered_of_objectOf? h
  · obtain rfl := Option.some.inj h
    exact .object .nil fun _ hentry => absurd hentry List.not_mem_nil

theorem ordered_of_mem_assigned {document : Json} (h : document ∈ assigned path? env) :
    Ordered document := by
  obtain ⟨v, -, hassigned⟩ := List.mem_filterMap.1 h
  obtain ⟨path, -, hassigned⟩ := Option.bind_eq_some_iff.1 hassigned
  obtain ⟨value, hvalue, hdocument⟩ := Option.bind_eq_some_iff.1 hassigned
  obtain rfl := Option.some.inj hdocument
  exact (VariableText.ordered_of_value? hvalue).nested path

/-- Variables of one kind make up a layer of what each of them sets. -/
theorem layer?_eq_foldl {layer : Json} (h : Environment.layer? path? env = some layer) :
    layer = (assigned path? env).foldl overlay (.object []) := by
  unfold Environment.layer? at h
  generalize Json.object [] = base at h ⊢
  induction env generalizing base with
  | nil => exact (Option.some.inj h).symm
  | cons first rest ih =>
    obtain ⟨name, text⟩ := first
    rw [List.foldlM_cons] at h
    obtain ⟨next, hnext, h⟩ := Option.bind_eq_some_iff.1 h
    dsimp only at hnext
    split at hnext
    · rename_i path hpath
      obtain ⟨value, hvalue, hnext⟩ := Option.bind_eq_some_iff.1 hnext
      obtain rfl := Option.some.inj hnext
      have hset : assignment? path? (name, text) = some (Json.nested path value) := by
        rw [assignment?, hpath, hvalue]
        rfl
      rw [assigned, List.filterMap_cons_some hset]
      exact ih _ h
    · rename_i hpath
      obtain rfl := Option.some.inj hnext
      have hset : assignment? path? (name, text) = none := by
        rw [assignment?, hpath]
        rfl
      rw [assigned, List.filterMap_cons_none hset]
      exact ih _ h

theorem filterMap_eq_of_mapM {α β : Type} {f : α → Option β} {items : List α} {values : List β}
    (h : items.mapM f = some values) : items.filterMap f = values := by
  induction items generalizing values with
  | nil => exact Option.some.inj h
  | cons item rest ih =>
    rw [List.mapM_cons] at h
    obtain ⟨value, hvalue, h⟩ := Option.bind_eq_some_iff.1 h
    obtain ⟨others, hothers, h⟩ := Option.bind_eq_some_iff.1 h
    obtain rfl := Option.some.inj h
    rw [List.filterMap_cons_some hvalue, ih hothers]

/-- A configuration that is loaded is read from its files and two layers of variables. -/
theorem exists_layers_of_load (h : load tree dir env extra = .ok c) :
    ∃ recipe settings, Environment.layer? Environment.recipePath? env = some recipe ∧
      Environment.layer? Environment.settingPath? env = some settings ∧
      ofLayers? env ((projectFile :: extra.toList).filterMap (fileLayer? tree dir) ++
        [recipe, settings]) = some c := by
  have hall : loadAll tree dir env (projectFile :: extra.toList) = .ok c := by
    cases extra with
    | none => exact load_none.symm.trans h
    | some path =>
      rw [load_some] at h
      split at h
      · exact h
      · cases h
  obtain ⟨overrides, files, hoverrides, hfiles, hread, -⟩ := loadAll_eq_ok_iff.1 hall
  unfold overrides? at hoverrides
  rw [List.mapM_cons] at hoverrides
  obtain ⟨recipe, hrecipe, hoverrides⟩ := Option.bind_eq_some_iff.1 hoverrides
  rw [List.mapM_cons] at hoverrides
  obtain ⟨rest, hrest, hoverrides⟩ := Option.bind_eq_some_iff.1 hoverrides
  obtain ⟨settings, hsettings, hrest⟩ := Option.bind_eq_some_iff.1 hrest
  obtain rfl := Option.some.inj hrest
  obtain rfl := Option.some.inj hoverrides
  rw [filterMap_eq_of_mapM hfiles]
  exact ⟨recipe, settings, hrecipe, hsettings, hread⟩

end Config
end ClusterHealth
