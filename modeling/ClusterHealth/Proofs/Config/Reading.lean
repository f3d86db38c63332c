import ClusterHealth.Proofs.Yaml.Values

/-! Two readings of one part of a document: as it is written, and from the value that was laid over
the defaults. Where both succeed, they give the same, except that maps keep what is under them. -/
namespace ClusterHealth.Config
open Json (Alike Ascending insertFields)
open Yaml (Node Document)

/-- Where both succeed, the results are related. -/
def Related (P : α → β → Prop) (o : Option α) (o' : Option β) : Prop :=
  ∀ x y, o = some x → o' = some y → P x y

section Combination
variable {α β γ δ : Type} {P : α → β → Prop} {Q : γ → δ → Prop} {o : Option α} {o' : Option β}

theorem Related.bind {f : α → Option γ} {f' : β → Option δ} (h : Related P o o')
    (hf : ∀ x y, P x y → Related Q (f x) (f' y)) : Related Q (o >>= f) (o' >>= f') := by
  intro u v hu hv
  obtain ⟨x, hx, hu⟩ := Option.bind_eq_some_iff.1 hu
  obtain ⟨y, hy, hv⟩ := Option.bind_eq_some_iff.1 hv
  exact hf x y (h x y hx hy) u v hu hv

/-- Results that are the same need no relation to be followed up. -/
theorem Related.bind_eq {p p' : Option α} {f : α → Option γ} {f' : α → Option δ}
    (h : Related Eq p p') (hf : ∀ x, Related Q (f x) (f' x)) :
    Related Q (p >>= f) (p' >>= f') :=
  h.bind fun x _ hxy => hxy ▸ hf x

theorem related_some {x : α} {y : β} (h : P x y) : Related P (some x) (some y) := by
  rintro _ _ ⟨⟩ ⟨⟩
  exact h

theorem related_none_left : Related P none o' := by
  rintro _ _ ⟨⟩

theorem related_none_right : Related P o none := by
  rintro _ _ _ ⟨⟩

end Combination

section Values
variable {α : Type} {d : Document} {node : Node} {json : Json}

theorem nat_related (h : d.Gives node json) (bound : Nat) :
    Related Eq (node.nat? bound) (natOf? bound json) := by
  cases node with
  | scalar tag style text =>
    rcases h.spells with ⟨rfl, -⟩ | ⟨hspells, -⟩
    · exact related_none_right
    cases hspells with
    | int n hn =>
      intro x y hx hy
      obtain ⟨-, hy⟩ := Option.ite_none_right_eq_some.1 hy
      obtain rfl := Yaml.eq_of_nat? hx hn
      exact Option.some.inj hy
    | _ => exact related_none_right
  | _ => exact related_none_left

theorem bool_related (h : d.Gives node json) : Related Eq node.bool? (boolOf? json) := by
  cases node with
  | scalar tag style text =>
    rcases h.spells with ⟨rfl, -⟩ | ⟨hspells, -⟩
    · exact related_none_right
    cases hspells with
    | bool b hb =>
      rintro x _ hx ⟨⟩
      exact (Yaml.eq_of_bool? hx hb).symm
    | _ => exact related_none_right
  | _ => exact related_none_left

theorem text_related (h : d.Gives node json) : Related Eq node.text? json.string? := by
  cases node with
  | scalar tag style text =>
    rcases h.spells with ⟨rfl, -⟩ | ⟨hspells, -⟩
    · exact related_none_right
    cases hspells with
    | string => exact related_some rfl
    | _ => exact related_none_right
  | _ => exact related_none_left

theorem optionalText_related (h : d.Gives node json) :
    Related Eq node.optionalText? (optionalTextOf? json) := by
  cases node with
  | scalar tag style text =>
    have hquoted : style = .plain ∨ tag ≠ some "tag:yaml.org,2002:null" := by
      simpa [Node.common] using (Bool.and_eq_true_iff.1 h.1).2
    rcases h.spells with ⟨rfl, hnull⟩ | ⟨hspells, htag, hplain⟩
    · have hread : (Node.scalar tag style text).optionalText? = some none := by
        rcases hnull with ⟨rfl, rfl, hnull⟩ | ⟨rfl, hnull⟩
        · simp only [Node.optionalText?, if_true, hnull]
        · obtain rfl := hquoted.resolve_right fun hne => hne rfl
          simp only [Node.optionalText?, if_true, hnull]
      rw [hread]
      exact related_some rfl
    cases hspells with
    | string =>
      have hread : (Node.scalar tag style text).optionalText? = some (some text) := by
        unfold Node.optionalText?
        dsimp only
        split
        · rename_i hstyle
          split
          · rw [hplain hstyle rfl]
            rfl
          · exact absurd rfl htag
          · rfl
        · rfl
      rw [hread]
      exact related_some rfl
    | _ => exact related_none_right
  | _ => exact related_none_left

/-- Lists whose items are read alike are read alike. -/
theorem mapM_related {read : Node → Option α} {read' : Json → Option α}
    (hread : ∀ node json, d.Gives node json → Related Eq (read node) (read' json))
    {nodes : List Node} {values : List Json} (h : List.Forall₂ d.Gives nodes values) :
    Related Eq (nodes.mapM read) (values.mapM read') := by
  induction h with
  | nil => exact related_some rfl
  | cons hfirst _ ih =>
    rw [List.mapM_cons, List.mapM_cons]
    exact (hread _ _ hfirst).bind_eq fun _ => ih.bind_eq fun _ => related_some rfl

theorem texts_related (hd : d.common = true) (h : d.Gives node json) :
    Related Eq (textsIn? d node) (textsOf? json) := by
  cases node with
  | scalar tag style text =>
    rcases h.spells with ⟨rfl, -⟩ | ⟨hspells, -⟩
    · exact related_none_right
    · cases hspells with
      | _ => exact related_none_right
  | sequence tag items =>
    obtain ⟨values, rfl, hvalues⟩ := h.sequence hd
    have hitems := mapM_related (fun _ _ => text_related) hvalues
    rw [List.mapM_map] at hitems
    exact hitems
  | _ => exact related_none_left

/-- A map is read from nodes as from the values that they stand for. -/
theorem exists_alike_of_mapIn? (hd : d.common = true) (h : d.Gives node json)
    {read : Node → Option α} {x : NameMap α} (hx : mapIn? d read node = some x) :
    json.object? = none ∨ ∃ nodes above, json = .object above ∧ Ascending above ∧
      Alike d.Gives nodes above ∧ Alike (fun node x => read node = some x) nodes x := by
  cases node with
  | scalar tag style text =>
    rcases h.spells with ⟨rfl, -⟩ | ⟨hspells, -⟩
    · exact .inl rfl
    · cases hspells with
      | _ => exact .inl rfl
  | sequence tag items => cases hx
  | reference number => cases hx
  | mapping tag entries =>
    obtain ⟨fields, found, rfl, hfound, halike⟩ := h.mapping hd
    rw [mapIn?, hfound, Option.bind_eq_bind, Option.bind_some] at hx
    obtain ⟨values, hvalues, hx⟩ := Option.bind_eq_some_iff.1 hx
    obtain rfl := Option.some.inj hx
    refine .inr ⟨insertFields found [], insertFields fields [], rfl, ?_, ?_, ?_⟩
    · exact Ascending.insertFields .nil fields
    · exact halike.insertFields .nil
    · exact (Json.mapM_eq_some_iff.1 hvalues).insertFields .nil

/-- Values that nodes stand for are read alike. -/
theorem eq_of_alike {read : Node → Option α} {read' : Json → Option α}
    (hread : ∀ node json, d.Gives node json → Related Eq (read node) (read' json))
    {nodes : List (String × Node)} {above : List (String × Json)} {x y : NameMap α}
    (hgives : Alike d.Gives nodes above) (hx : Alike (fun node x => read node = some x) nodes x)
    (hy : Alike (fun json y => read' json = some y) above y) : x = y := by
  induction hgives generalizing x y with
  | nil =>
    cases hx
    cases hy
    rfl
  | cons hfirst _ ih =>
    cases hx with
    | @cons _ first _ _ hx hxs =>
      cases hy with
      | @cons _ second _ _ hy hys =>
        have hname : first.1 = second.1 := hx.1.symm.trans (hfirst.1.trans hy.1)
        have hvalue : first.2 = second.2 := hread _ _ hfirst.2 _ _ hx.2 hy.2
        rw [Prod.ext hname hvalue, ih hxs hys]

theorem overlay_of_object? {old : Json} (h : old.object? = none) (above : Json) :
    overlay old above = above := by
  cases old with
  | object fields => cases h
  | _ => rw [overlay]; exact fun _ _ hobject _ => by cases hobject

theorem alike_of_mapOf? {read : Json → Option α} {fields : List (String × Json)} {x : NameMap α}
    (h : mapOf? read (.object fields) = some x) :
    Alike (fun json x => read json = some x) fields x :=
  Json.mapM_eq_some_iff.1 h

/-- Read back from what lies over a map that can be read, a map is put into that one. -/
theorem map_related (hd : d.common = true) (h : d.Gives node json)
    {read : Node → Option α} {read' : Json → Option α}
    (hread : ∀ node json, d.Gives node json → Related Eq (read node) (read' json))
    (hobject : ∀ json x, read' json = some x → json.object? = none)
    {fields : List (String × Json)} {under : NameMap α}
    (hunder : mapOf? read' (.object fields) = some under) :
    Related (fun x y => y = insertFields x under) (mapIn? d read node)
      (mapOf? read' (overlay (.object fields) json)) := by
  intro x y hx hy
  rcases exists_alike_of_mapIn? hd h hx with hnone | ⟨nodes, above, rfl, hascending, hgives, hx⟩
  · cases json with
    | object above => cases hnone
    | _ => cases hy
  have hunder := alike_of_mapOf? hunder
  have hcombined : overlayFields fields above = insertFields above fields := by
    refine overlayFields_eq_insertFields hascending.nodup fun name _ value => ?_
    cases hold : fields.lookup name with
    | none => rfl
    | some old =>
      obtain ⟨z, -, hz⟩ := hunder.lookup_some hold
      exact overlay_of_object? (hobject old z hz) value
  rw [overlay, hcombined] at hy
  have hy := alike_of_mapOf? hy
  -- Everything above is still there, so that it can be read by itself.
  have hreadable (entry : String × Json) (hentry : entry ∈ above) :
      ∃ x, read' entry.2 = some x :=
    hy.exists_of_mem (Json.mem_insertFields_of_mem hentry hascending.nodup fields)
  obtain ⟨z, hz⟩ := Json.exists_alike (P := fun json x => read' json = some x) hreadable
  obtain rfl := eq_of_alike hread hgives hx hz
  have hall := Json.mapM_eq_some_iff.2 (hz.insertFields hunder)
  exact Option.some.inj ((Json.mapM_eq_some_iff.2 hy).symm.trans hall)

/-- The same map without anything under it. -/
theorem map_eq (hd : d.common = true) (h : d.Gives node json)
    {read : Node → Option α} {read' : Json → Option α}
    (hread : ∀ node json, d.Gives node json → Related Eq (read node) (read' json)) :
    Related Eq (mapIn? d read node) (mapOf? read' json) := by
  intro x y hx hy
  rcases exists_alike_of_mapIn? hd h hx with hnone | ⟨nodes, above, rfl, -, hgives, hx⟩
  · cases json with
    | object above => cases hnone
    | _ => cases hy
  · exact eq_of_alike hread hgives hx (alike_of_mapOf? hy)

end Values
section Settings
variable {α : Type} {d : Document} {node : Node} {json : Json} {s : List (String × Node)}
  {s' : List (String × Json)} {listed : Bool} {members : List (String × Json)} {name : String}
  {old : Json}

/-- What a section `s` gives lies over the members under it in `s'`, except that a section that is
listed has nothing under it. -/
structure Laid (d : Document) (listed : Bool) (members : List (String × Json))
    (s : List (String × Node)) (s' : List (String × Json)) : Prop where
  given {name : String} {old : Json} (hold : members.lookup name = some old) {node : Node}
    (hnode : s.lookup name = some node) : ∃ json, d.Gives node json ∧
      s'.lookup name = some (if listed then json else overlay old json)
  left {name : String} {old : Json} (hold : members.lookup name = some old)
    (hnone : s.lookup name = none) : s'.lookup name = if listed then none else some old

/-- Settings are related if their values are, and so is what they are without one. -/
theorem Laid.setting {P : α → α → Prop} (h : Laid d listed members s s')
    (hold : members.lookup name = some old) {read : Node → Option α} {read' : Json → Option α}
    {default : α}
    (hgiven : ∀ node json, s.lookup name = some node → d.Gives node json →
      Related P (read node) (read' (if listed then json else overlay old json)))
    (hleft : s.lookup name = none →
      Related P (some default) (if listed then some default else read' old)) :
    Related P (setting s name default read) (setting s' name default read') := by
  unfold Config.setting
  cases hnode : s.lookup name with
  | some node =>
    obtain ⟨json, hgives, hjson⟩ := h.given hold hnode
    rw [hjson]
    exact hgiven node json hnode hgives
  | none =>
    rw [h.left hold hnode]
    cases listed with
    | true => exact hleft hnode
    | false => exact hleft hnode

/-- Settings whose defaults are no objects. -/
theorem Laid.leaf (h : Laid d listed members s s') (hold : members.lookup name = some old)
    {read : Node → Option α} {read' : Json → Option α} {default : α}
    (hread : ∀ node json, d.Gives node json → Related Eq (read node) (read' json))
    (hobject : old.object? = none) (hdefault : read' old = some default) :
    Related Eq (Config.setting s name default read) (Config.setting s' name default read') := by
  refine h.setting hold (fun node json _ hgives => ?_) fun _ => ?_
  · rw [overlay_of_object? hobject, ite_self]
    exact hread node json hgives
  · rw [hdefault, ite_self]
    exact related_some rfl

theorem Laid.text (h : Laid d listed members s s') {default : String}
    (hold : members.lookup name = some (.string default)) :
    Related Eq (Config.setting s name default (nodeReader d).text?)
      (Config.setting s' name default valueReader.text?) :=
  h.leaf hold (fun _ _ => text_related) rfl rfl

theorem Laid.optionalText (h : Laid d listed members s s') {default : Option String}
    (hold : members.lookup name = some (optionalJson default)) :
    Related Eq (Config.setting s name default (nodeReader d).optionalText?)
      (Config.setting s' name default valueReader.optionalText?) := by
  cases default with
  | none => exact h.leaf hold (fun _ _ => optionalText_related) rfl rfl
  | some text => exact h.leaf hold (fun _ _ => optionalText_related) rfl rfl

theorem Laid.bool (h : Laid d listed members s s') {default : Bool}
    (hold : members.lookup name = some (.bool default)) :
    Related Eq (Config.setting s name default (nodeReader d).bool?)
      (Config.setting s' name default valueReader.bool?) :=
  h.leaf hold (fun _ _ => bool_related) rfl rfl

theorem Laid.nat (h : Laid d listed members s s') {default bound : Nat} (hbound : default ≤ bound)
    (hold : members.lookup name = some (.ofNat default)) :
    Related Eq (Config.setting s name default ((nodeReader d).nat? bound))
      (Config.setting s' name default (valueReader.nat? bound)) :=
  h.leaf hold (fun _ _ hgives => nat_related hgives bound) rfl
    (if_pos ⟨Int.natCast_nonneg default, Int.ofNat_le.2 hbound⟩)

theorem textsOf?_array (texts : List String) :
    textsOf? (.array (texts.map .string)) = some texts := by
  change (texts.map Json.string).mapM Json.string? = some texts
  induction texts with
  | nil => rfl
  | cons text rest ih =>
    rw [List.map_cons, List.mapM_cons, ih]
    rfl

theorem Laid.texts (hd : d.common = true) (h : Laid d listed members s s') {default : List String}
    (hold : members.lookup name = some (.array (default.map .string))) :
    Related Eq (Config.setting s name default (nodeReader d).texts?)
      (Config.setting s' name default valueReader.texts?) :=
  h.leaf hold (fun _ _ => texts_related hd) rfl (textsOf?_array default)

/-- Maps over their defaults; in a section that is listed they are what they are. -/
theorem Laid.map (hd : d.common = true) (h : Laid d listed members s s')
    {read : Node → Option α} {read' : Json → Option α} {write : α → Json} {default : NameMap α}
    (hold : members.lookup name = some (mapJson write default))
    (hread : ∀ node json, d.Gives node json → Related Eq (read node) (read' json))
    (hobject : ∀ json x, read' json = some x → json.object? = none)
    (hdefault : mapOf? read' (mapJson write default) = some default)
    (hself : insertFields default default = default) :
    Related (fun x y => y = if listed then x else insertFields x default)
      (Config.setting s name default ((nodeReader d).map? read))
      (Config.setting s' name default (valueReader.map? read')) := by
  refine h.setting hold (fun node json _ hgives => ?_) fun _ => ?_
  · cases listed with
    | true => exact fun x y hx hy => (map_eq hd hgives hread x y hx hy).symm
    | false => exact map_related hd hgives hread hobject hdefault
  · cases listed with
    | true => exact related_some rfl
    | false =>
      intro x y hx hy
      obtain rfl := Option.some.inj hx
      exact (Option.some.inj (hdefault.symm.trans hy)).symm.trans hself.symm

def isSequence : Node → Bool
  | .sequence .. => true
  | _ => false

/-- A section within a section. One that is left out is as good as one without settings. -/
theorem Laid.nested {P : Bool → α → α → Prop} (h : Laid d false members s s')
    {inner : List (String × Json)} (hold : members.lookup name = some (.ofFields inner))
    {read : Node → Option α} {read' : Json → Option α} {default : α}
    (hread : ∀ node json, d.Gives node json →
      Related (P (isSequence node)) (read node) (read' (overlay (.ofFields inner) json)))
    (hempty : read (.mapping none []) = some default) :
    Related (P ((s.lookup name).any isSequence)) (Config.setting s name default read)
      (Config.setting s' name default read') := by
  refine h.setting hold (fun node json hnode hgives => ?_) fun hnone => ?_
  · rw [hnode]
    exact hread node json hgives
  · have hgives : d.Gives (.mapping none []) (.object []) := by
      refine ⟨rfl, .mapping none [], rfl, 1, 0, 0, ?_⟩
      rw [Document.value?]
      rfl
    rw [hnone, ← hempty]
    exact hread _ _ hgives

theorem mem_of_lookup {names : List String} (hmembers : members.map Prod.fst = names)
    (hold : members.lookup name = some old) : name ∈ names := by
  obtain ⟨before, behind, rfl, -⟩ := List.lookup_eq_some_iff.1 hold
  simp [← hmembers]

/-- Under the name of a member, a value given once lies over the member. -/
theorem lookup_overlay_members {names : List String} (hmembers : members.map Prod.fst = names)
    (hnames : names.Nodup) {fields : List (String × Json)}
    (hunique : ((fields.map Prod.fst).filter (· ∈ names)).Nodup)
    (hold : members.lookup name = some old) :
    (overlayFields (insertFields members []) (insertFields fields [])).lookup name =
      match fields.lookup name with
      | some value => some (overlay old value)
      | none => some old := by
  have hname := mem_of_lookup hmembers hold
  have hmember : (insertFields members []).lookup name = some old := by
    have hall : ((members.map Prod.fst).filter (· ∈ names)).Nodup := by
      rw [hmembers]
      exact hnames.filter _
    rw [Json.lookup_insertFields hname hall, hold]
    rfl
  have hascending : Ascending (insertFields fields []) := Ascending.insertFields .nil fields
  rw [lookup_overlayFields hascending.nodup, hmember, Json.lookup_insertFields hname hunique]
  cases fields.lookup name <;> rfl

/-- A section is read from a node as from the value that the node stands for, laid over members. -/
theorem laid_of_sections (hd : d.common = true) (h : d.Gives node json) {names : List String}
    (hmembers : members.map Prod.fst = names) (hnames : names.Nodup)
    (hs : sectionIn? d names node = some s)
    (hs' : sectionOf? names (overlay (.ofFields members) json) = some s') :
    Laid d (isSequence node) members s s' := by
  cases node with
  | reference number => cases hs
  | scalar tag style text =>
    rcases h.spells with ⟨rfl, -⟩ | ⟨hspells, -⟩
    · cases hs'
    · cases hspells with
      | _ => cases hs'
  | sequence tag items =>
    obtain ⟨values, rfl, hvalues⟩ := h.sequence hd
    obtain rfl := Option.some.inj hs'
    obtain ⟨-, hs⟩ := Option.ite_none_right_eq_some.1 hs
    obtain rfl := Option.some.inj hs
    have halike := Json.alike_zip hvalues names
    exact ⟨fun _ _ hnode => (halike.lookup_some hnode).imp fun _ hjson => hjson.symm,
      fun _ hnone => halike.lookup_none hnone⟩
  | mapping tag entries =>
    obtain ⟨fields, found, rfl, hfound, halike⟩ := h.mapping hd
    have hlaid : overlayFields (insertFields members []) (insertFields fields []) = s' :=
      Option.some.inj hs'
    subst hlaid
    simp only [sectionIn?, hfound, Option.bind_eq_bind, Option.bind_some,
      Option.ite_none_right_eq_some] at hs
    obtain ⟨hunique, hs⟩ := hs
    obtain rfl := Option.some.inj hs
    rw [halike.map_fst] at hunique
    refine ⟨fun hold node hnode => ?_, fun hold hnone => ?_⟩
    · obtain ⟨json, hjson, hgives⟩ := halike.lookup_some hnode
      refine ⟨json, hgives, ?_⟩
      rw [lookup_overlay_members hmembers hnames hunique hold, hjson]
      rfl
    · rw [lookup_overlay_members hmembers hnames hunique hold, halike.lookup_none hnone]
      rfl

/-- What is made of a section is related if it is for all settings that are laid over each other. -/
theorem related_of_laid (hd : d.common = true) (h : d.Gives node json) {names : List String}
    (hmembers : members.map Prod.fst = names) (hnames : names.Nodup) {P : α → α → Prop}
    {f : List (String × Node) → Option α} {f' : List (String × Json) → Option α}
    (hf : ∀ s s', sectionIn? d names node = some s → Laid d (isSequence node) members s s' →
      Related P (f s) (f' s')) :
    Related P ((nodeReader d).fields? names node >>= f)
      (valueReader.fields? names (overlay (.ofFields members) json) >>= f') := by
  intro x y hx hy
  obtain ⟨s, hs, hx⟩ := Option.bind_eq_some_iff.1 hx
  obtain ⟨s', hs', hy⟩ := Option.bind_eq_some_iff.1 hy
  exact hf s s' hs (laid_of_sections hd h hmembers hnames hs hs') x y hx hy

end Settings
end ClusterHealth.Config
