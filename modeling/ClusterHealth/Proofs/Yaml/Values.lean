import ClusterHealth.Config.Document
import ClusterHealth.Proofs.Json.Fields

/-! What nodes stand for, node by node. A tag of the document's own makes a value an object with a
name of its own; without such tags values have the shape of their nodes. -/
namespace ClusterHealth.Yaml

def commonTag (tag : Option String) : Bool := !tag.any (Text.startsWith · "!")

mutual

/-- No tag is the document's own, and only plain scalars are marked as null. -/
def Node.common : Node → Bool
  | .scalar tag style _ =>
    commonTag tag && (style = .plain || tag != some "tag:yaml.org,2002:null")
  | .sequence tag items => commonTag tag && commonItems items
  | .mapping tag entries => commonTag tag && commonEntries entries
  | .reference _ => true

def commonItems : List Node → Bool
  | [] => true
  | item :: rest => item.common && commonItems rest

def commonEntries : List (Node × Node) → Bool
  | [] => true
  | (key, value) :: rest => key.common && value.common && commonEntries rest

end

theorem commonItems_iff {items : List Node} :
    commonItems items = true ↔ ∀ item ∈ items, item.common = true := by
  induction items with
  | nil => simp [commonItems]
  | cons item rest ih => simp [commonItems, ih]

theorem commonEntries_iff {entries : List (Node × Node)} :
    commonEntries entries = true ↔
      ∀ entry ∈ entries, entry.1.common = true ∧ entry.2.common = true := by
  induction entries with
  | nil => simp [commonEntries]
  | cons entry rest ih => simp [commonEntries, ih, and_assoc]

def Document.common (d : Document) : Bool := d.root.common && d.anchored.all (·.2.common)

theorem named_of_common {tag : Option String} (h : commonTag tag = true) (value : Json) :
    named tag value = value := by
  have hnone : tag.bind ownName? = none := by
    cases tag with
    | none => rfl
    | some tag =>
      have hstart : Text.startsWith tag "!" = false := by simpa [commonTag] using h
      rw [Option.bind_some, ownName?]
      rw [Text.startsWith] at hstart
      split
      · rename_i htag
        rw [htag] at hstart
        cases hstart
      · rename_i htag
        rw [htag] at hstart
        cases hstart
      · rfl
  rw [named, hnone]

theorem Following.bind_eq_some_iff {x : Following α} {f : α → Following β} {left : Nat}
    {r : β × Nat} :
    (x >>= f) left = some r ↔ ∃ a between, x left = some (a, between) ∧ f a between = some r := by
  change (x left).bind (fun p => f p.1 p.2) = some r ↔ _
  simp [Option.bind_eq_some_iff]

theorem Following.lift_eq_some_iff {o : Option α} {left rest : Nat} {a : α} :
    (StateT.lift o : Following α) left = some (a, rest) ↔ o = some a ∧ left = rest := by
  change (o.bind fun a => some (a, left)) = some (a, rest) ↔ _
  simp [Option.bind_eq_some_iff]

namespace Document
variable {d : Document} {node : Node} {json : Json}

theorem resolve_of_follow {left left' : Nat} {found : Node}
    (h : d.follow node left = some (found, left')) : d.resolve node = found := by
  cases node with
  | reference number =>
    cases left with
    | zero => cases h
    | succ left =>
      cases h
      rfl
  | _ =>
    cases h
    rfl

/-- A node has a value, however many references it takes. -/
def Means (d : Document) (node : Node) (json : Json) : Prop :=
  ∃ depth left rest, d.value? depth node left = some (json, rest)

theorem forall₂_of_mapM {f : α → Following β} {items : List α} {values : List β} {left rest : Nat}
    (h : items.mapM f left = some (values, rest)) :
    List.Forall₂ (fun item value => ∃ before after, f item before = some (value, after))
      items values := by
  induction items generalizing values left with
  | nil =>
    rw [List.mapM_nil] at h
    cases h
    exact .nil
  | cons item items ih =>
    rw [List.mapM_cons, Following.bind_eq_some_iff] at h
    obtain ⟨value, between, hvalue, h⟩ := h
    obtain ⟨others, behind, hothers, h⟩ := Following.bind_eq_some_iff.1 h
    cases h
    exact .cons ⟨left, between, hvalue⟩ (ih hothers)

theorem Means.shape (h : Means d node json) :
    match d.resolve node with
    | .scalar tag style text => ∃ value, scalarValue? tag style text = some value ∧
        json = named tag value
    | .sequence tag items => ∃ values, List.Forall₂ (Means d) items values ∧
        json = named tag (.array values)
    | .mapping tag entries => ∃ fields : List (String × Json),
        List.Forall₂ (fun entry field => (d.resolve entry.1).text? = some field.1 ∧
          Means d entry.2 field.2) entries fields ∧ json = named tag (.ofFields fields)
    | .reference _ => False := by
  obtain ⟨depth, left, rest, h⟩ := h
  rw [value?, Following.bind_eq_some_iff] at h
  obtain ⟨found, between, hfound, h⟩ := h
  rw [resolve_of_follow hfound]
  cases found with
  | scalar tag style text =>
    obtain ⟨value, behind, hvalue, h⟩ := Following.bind_eq_some_iff.1 h
    cases h
    exact ⟨value, (Following.lift_eq_some_iff.1 hvalue).1, rfl⟩
  | sequence tag items =>
    cases depth with
    | zero => cases h
    | succ depth =>
      obtain ⟨values, behind, hvalues, h⟩ := Following.bind_eq_some_iff.1 h
      cases h
      refine ⟨values, (forall₂_of_mapM hvalues).imp fun item value hitem => ?_, rfl⟩
      obtain ⟨before, after, hitem⟩ := hitem
      exact ⟨depth, before, after, hitem⟩
  | mapping tag entries =>
    cases depth with
    | zero => cases h
    | succ depth =>
      obtain ⟨fields, behind, hfields, h⟩ := Following.bind_eq_some_iff.1 h
      cases h
      refine ⟨fields, (forall₂_of_mapM hfields).imp fun entry field hentry => ?_, rfl⟩
      obtain ⟨before, after, hentry⟩ := hentry
      obtain ⟨key, between, hkey, hentry⟩ := Following.bind_eq_some_iff.1 hentry
      obtain ⟨value, last, hvalue, hentry⟩ := Following.bind_eq_some_iff.1 hentry
      cases hentry
      refine ⟨?_, depth, between, _, hvalue⟩
      obtain ⟨found, _, hfound, hkey⟩ := Following.bind_eq_some_iff.1 hkey
      rw [resolve_of_follow hfound]
      exact (Following.lift_eq_some_iff.1 hkey).1
  | reference number => cases h

theorem resolve_common (hd : d.common = true) (h : node.common = true) :
    (d.resolve node).common = true := by
  cases node with
  | reference number =>
    rw [resolve]
    cases hfind : d.anchored.findRev? (·.1 == number) with
    | none => rfl
    | some found =>
      rw [common, Bool.and_eq_true] at hd
      rw [Array.findRev?_eq_find?_reverse] at hfind
      have hmem := Array.mem_reverse.1 (Array.mem_of_find?_eq_some hfind)
      exact Array.all_eq_true_iff_forall_mem.1 hd.2 found hmem
  | _ => exact h

/-- `node`, with references followed, stands for `json`. -/
def Gives (d : Document) (node : Node) (json : Json) : Prop :=
  node.common = true ∧ ∃ written, d.resolve written = node ∧ d.Means written json

theorem gives_of_means (hd : d.common = true) (hnode : node.common = true)
    (h : d.Means node json) : d.Gives (d.resolve node) json :=
  ⟨resolve_common hd hnode, node, rfl, h⟩

theorem Gives.scalar {tag : Option String} {style : ScalarStyle} {text : String}
    (h : d.Gives (.scalar tag style text) json) : scalarValue? tag style text = some json := by
  obtain ⟨hcommon, written, hwritten, hmeans⟩ := h
  have hshape := hmeans.shape
  rw [hwritten] at hshape
  obtain ⟨value, hvalue, rfl⟩ := hshape
  rw [Node.common, Bool.and_eq_true] at hcommon
  rw [named_of_common hcommon.1]
  exact hvalue

theorem gives_items (hd : d.common = true) {items : List Node} {values : List Json}
    (h : List.Forall₂ d.Means items values) (hitems : ∀ item ∈ items, item.common = true) :
    List.Forall₂ d.Gives (items.map d.resolve) values := by
  induction h with
  | nil => exact .nil
  | cons hitem _ ih =>
    refine .cons (gives_of_means hd (hitems _ List.mem_cons_self) hitem) (ih fun item hmem => ?_)
    exact hitems item (List.mem_cons_of_mem _ hmem)

theorem Gives.sequence (hd : d.common = true) {tag : Option String} {items : List Node}
    (h : d.Gives (.sequence tag items) json) :
    ∃ values, json = .array values ∧ List.Forall₂ d.Gives (items.map d.resolve) values := by
  obtain ⟨hcommon, written, hwritten, hmeans⟩ := h
  have hshape := hmeans.shape
  rw [hwritten] at hshape
  obtain ⟨values, hvalues, rfl⟩ := hshape
  rw [Node.common, Bool.and_eq_true, commonItems_iff] at hcommon
  rw [named_of_common hcommon.1]
  exact ⟨values, rfl, gives_items hd hvalues hcommon.2⟩

theorem gives_entries (hd : d.common = true) {entries : List (Node × Node)}
    {fields : List (String × Json)}
    (h : List.Forall₂ (fun entry field => (d.resolve entry.1).text? = some field.1 ∧
      d.Means entry.2 field.2) entries fields)
    (hentries : ∀ entry ∈ entries, entry.1.common = true ∧ entry.2.common = true) :
    ∃ found, Config.entriesIn? d (.mapping none entries) = some found ∧
      Json.Alike d.Gives found fields := by
  induction h with
  | nil => exact ⟨[], rfl, .nil⟩
  | @cons entry field entries fields hentry _ ih =>
    obtain ⟨found, hfound, halike⟩ := ih fun entry hmem =>
      hentries entry (List.mem_cons_of_mem _ hmem)
    have hvalue := gives_of_means hd (hentries entry List.mem_cons_self).2 hentry.2
    refine ⟨(field.1, d.resolve entry.2) :: found, ?_, .cons ⟨rfl, hvalue⟩ halike⟩
    simp only [Config.entriesIn?, Node.entries?, Option.bind_eq_bind, Option.bind_some,
      List.mapM_cons] at hfound ⊢
    rw [hfound, hentry.1]
    rfl

theorem Gives.mapping (hd : d.common = true) {tag : Option String}
    {entries : List (Node × Node)} (h : d.Gives (.mapping tag entries) json) :
    ∃ fields found, json = .ofFields fields ∧
      Config.entriesIn? d (.mapping tag entries) = some found ∧
        Json.Alike d.Gives found fields := by
  obtain ⟨hcommon, written, hwritten, hmeans⟩ := h
  have hshape := hmeans.shape
  rw [hwritten] at hshape
  obtain ⟨fields, hfields, rfl⟩ := hshape
  rw [Node.common, Bool.and_eq_true, commonEntries_iff] at hcommon
  rw [named_of_common hcommon.1]
  obtain ⟨found, hfound, halike⟩ := gives_entries hd hfields hcommon.2
  exact ⟨fields, found, rfl, hfound, halike⟩

end Document

/-- What the value of a text says about its spelling, where it is not null. -/
inductive Spells (text : String) : Json → Prop
  | bool (b : Bool) (h : readBool? text = some b) : Spells text (.bool b)
  | int (n : Int) (h : readInt? text.toList = some n) : Spells text (.number (.integer n))
  | float (x : Decimal.Binary64) : Spells text (.number (.float x))
  | string : Spells text (.string text)

variable {tag : Option String} {style : ScalarStyle} {text : String} {json : Json}

theorem plainValue_spells (text : String) :
    (text.isEmpty || isNull text) = true ∧ plainValue text = .null ∨
      (text.isEmpty || isNull text) = false ∧ Spells text (plainValue text) := by
  unfold plainValue
  split
  · rename_i hnull
    exact .inl ⟨hnull, rfl⟩
  · rename_i hnull
    refine .inr ⟨Bool.eq_false_of_not_eq_true hnull, ?_⟩
    dsimp only
    split
    · rename_i b hb
      exact .bool b hb
    · rename_i n _ hn
      exact .int n hn
    · split
      · exact .string
      · split
        · rename_i x _
          exact .float x
        · exact .string

/-- What a scalar without a tag of the document's own stands for. -/
theorem scalarValue?_spells (hcommon : commonTag tag = true)
    (h : scalarValue? tag style text = some json) :
    json = .null ∧
        ((style = .plain ∧ tag = none ∧ (text.isEmpty || isNull text) = true) ∨
          tag = some "tag:yaml.org,2002:null" ∧ isNull text = true) ∨
      Spells text json ∧ tag ≠ some "tag:yaml.org,2002:null" ∧
        (style = .plain → tag = none → (text.isEmpty || isNull text) = false) := by
  unfold scalarValue? at h
  split at h
  · obtain rfl := Option.some.inj h
    unfold untaggedValue
    split
    · rename_i hplain
      rcases plainValue_spells text with ⟨hnull, hvalue⟩ | ⟨hnull, hvalue⟩
      · exact .inl ⟨hvalue, .inl ⟨hplain, rfl, hnull⟩⟩
      · exact .inr ⟨hvalue, by simp, fun _ _ => hnull⟩
    · rename_i hplain
      exact .inr ⟨.string, by simp, fun hplain' => absurd hplain' hplain⟩
  · obtain ⟨b, hb, rfl⟩ := Option.map_eq_some_iff.1 h
    exact .inr ⟨.bool b hb, by simp, by simp⟩
  · obtain ⟨n, hn, rfl⟩ := Option.map_eq_some_iff.1 h
    exact .inr ⟨.int n hn, by simp, by simp⟩
  · obtain ⟨x, hx, rfl⟩ := Option.map_eq_some_iff.1 h
    exact .inr ⟨.float x, by simp, by simp⟩
  · split at h
    · rename_i hnull
      obtain rfl := Option.some.inj h
      exact .inl ⟨rfl, .inr ⟨rfl, hnull⟩⟩
    · cases h
  · rename_i tag _ _ _ hother
    have hstart : Text.startsWith tag "!" = false := by simpa [commonTag] using hcommon
    rw [hstart] at h
    obtain rfl := Option.some.inj h
    exact .inr ⟨.string, by simpa using hother, by simp⟩

theorem Document.Gives.spells {d : Document} (h : d.Gives (.scalar tag style text) json) :
    json = .null ∧
        ((style = .plain ∧ tag = none ∧ (text.isEmpty || isNull text) = true) ∨
          tag = some "tag:yaml.org,2002:null" ∧ isNull text = true) ∨
      Spells text json ∧ tag ≠ some "tag:yaml.org,2002:null" ∧
        (style = .plain → tag = none → (text.isEmpty || isNull text) = false) :=
  scalarValue?_spells (Bool.and_eq_true_iff.1 h.1).1 h.scalar

/-- A scalar that is read as a natural number spells no other integer. -/
theorem eq_of_nat? {bound x : Nat} {n : Int}
    (hx : (Node.scalar tag style text).nat? bound = some x)
    (hn : readInt? text.toList = some n) : n = x := by
  unfold Node.nat? at hx
  dsimp only at hx
  split at hx
  · unfold readInt? at hn
    generalize Decimal.takeSign text.toList = signed at hx hn
    obtain ⟨negative, digits⟩ := signed
    cases negative with
    | true => cases hx
    | false =>
      obtain ⟨hdigits, -⟩ := Option.filter_eq_some_iff.1 hx
      simp only [hdigits, Option.bind_eq_bind, Option.bind_some, Bool.false_eq_true, if_false,
        Option.ite_none_right_eq_some, Option.some.injEq] at hn
      exact hn.2.symm
  · cases hx

theorem eq_of_bool? {b x : Bool} (hx : (Node.scalar tag style text).bool? = some x)
    (hb : readBool? text = some b) : b = x := by
  unfold Node.bool? at hx
  dsimp only at hx
  split at hx
  · exact Option.some.inj (hb.symm.trans hx)
  · cases hx

end ClusterHealth.Yaml
