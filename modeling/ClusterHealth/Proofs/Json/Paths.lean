import ClusterHealth.Proofs.Json.Fields
import Mathlib.Data.List.Induction

/-! Values at the ends of paths through objects. Of documents that are laid over each other, the
last one that has a value at a path decides what is there in the end. -/
namespace ClusterHealth.Json
open Config (overlay overlayFields overlaid)

/-- The value at the end of a path through objects. -/
def at? : List String → Json → Option Json
  | [], value => some value
  | name :: rest, value => (value.field? name).bind (at? rest)

/-- The value at a path in the last document that has one there. -/
def lastAt? (path : List String) (documents : List Json) : Option Json :=
  (documents.filterMap (at? path)).getLast?

/-- The keys of an object, and of all objects in it, ascend. -/
inductive Ordered : Json → Prop
  | atom {value : Json} (h : value.object? = none) : Ordered value
  | object {fields : List (String × Json)} (hascending : Ascending fields)
      (hvalues : ∀ entry ∈ fields, Ordered entry.2) : Ordered (.object fields)

/-- A path leads through objects only, as far as there is anything. -/
def Through (path : List String) (value : Json) : Prop :=
  ∀ front, front <+: path → front ≠ path → (value.at? front).all isObject = true

variable {value under above : Json} {fields members : List (String × Json)} {name : String}
  {path : List String} {documents : List Json}

@[simp] theorem object?_bool (b : Bool) : (Json.bool b).object? = none := rfl

@[simp] theorem object?_ofNat (n : Nat) : (Json.ofNat n).object? = none := rfl

@[simp] theorem object?_string (text : String) : (Json.string text).object? = none := rfl

@[simp] theorem object?_array (items : List Json) : (Json.array items).object? = none := rfl

theorem isObject_iff_object? : value.isObject = true ↔ ∃ fields, value = .object fields := by
  cases value <;> simp [isObject]

theorem object?_eq_none_iff : value.object? = none ↔ value.isObject = false := by
  cases value <;> simp [isObject, object?]

theorem field?_object (fields : List (String × Json)) (name : String) :
    (Json.object fields).field? name = fields.lookup name := by
  change (fields.find? (·.1 == name)).map (·.2) = fields.lookup name
  induction fields with
  | nil => rfl
  | cons first rest ih =>
    obtain ⟨k, v⟩ := first
    by_cases h : name = k
    · subst h
      simp
    · have hk : (k == name) = false := beq_eq_false_iff_ne.2 fun heq => h heq.symm
      rw [lookup_cons, if_neg h, ← ih, List.find?_cons, hk]

theorem at?_cons_object (fields : List (String × Json)) (name : String) (rest : List String) :
    (Json.object fields).at? (name :: rest) = (fields.lookup name).bind (at? rest) := by
  rw [at?, field?_object]

theorem at?_singleton (value : Json) (name : String) : value.at? [name] = value.field? name :=
  Option.bind_fun_some _

/-! Objects whose keys ascend. -/

theorem Ordered.ascending (h : Ordered (.object fields)) : Ascending fields := by
  cases h with
  | atom h => cases h
  | object hascending _ => exact hascending

theorem Ordered.value_of_mem (h : Ordered (.object fields)) {entry : String × Json}
    (hentry : entry ∈ fields) : Ordered entry.2 := by
  cases h with
  | atom h => cases h
  | object _ hvalues => exact hvalues entry hentry

theorem mem_of_lookup_eq_some {α : Type} {fields : List (String × α)} {value : α}
    (h : fields.lookup name = some value) : (name, value) ∈ fields := by
  obtain ⟨before, behind, rfl, -⟩ := List.lookup_eq_some_iff.1 h
  exact List.mem_append_right _ List.mem_cons_self

theorem lookup_eq_some_of_mem {α : Type} {fields : List (String × α)} {value : α}
    (hnames : (fields.map Prod.fst).Nodup) (h : (name, value) ∈ fields) :
    fields.lookup name = some value := by
  induction fields with
  | nil => cases h
  | cons first rest ih =>
    rw [List.map_cons, List.nodup_cons] at hnames
    rw [lookup_cons]
    rcases List.mem_cons.1 h with rfl | h
    · exact if_pos rfl
    · have hne : name ≠ first.1 := by
        rintro rfl
        exact hnames.1 (List.mem_map.2 ⟨_, h, rfl⟩)
      rw [if_neg hne]
      exact ih hnames.2 h

/-- Members of different names are the fields of the object that they make up. -/
theorem field?_ofFields (hnames : (members.map Prod.fst).Nodup) (h : (name, value) ∈ members) :
    (ofFields members).field? name = some value := by
  have hascending : Ascending (insertFields members []) := Ascending.insertFields .nil members
  have hmem : (name, value) ∈ insertFields members [] := mem_insertFields_of_mem h hnames []
  exact (field?_object _ name).trans (lookup_eq_some_of_mem hascending.nodup hmem)

theorem Ordered.lookup (h : Ordered (.object fields)) (hvalue : fields.lookup name = some value) :
    Ordered value :=
  h.value_of_mem (mem_of_lookup_eq_some hvalue)

theorem Ordered.at? (h : Ordered value) {inner : Json} (hinner : value.at? path = some inner) :
    Ordered inner := by
  induction path generalizing value with
  | nil =>
    obtain rfl := Option.some.inj hinner
    exact h
  | cons name rest ih =>
    cases value with
    | object fields =>
      rw [at?_cons_object] at hinner
      obtain ⟨next, hnext, hinner⟩ := Option.bind_eq_some_iff.1 hinner
      exact ih (h.lookup hnext) hinner
    | _ => cases hinner

theorem Ordered.insertField (h : Ordered (.object fields)) (hvalue : Ordered value) :
    Ordered (.object (insertField name value fields)) := by
  refine .object (h.ascending.insertField name value) fun entry hentry => ?_
  rcases mem_insertField hentry with rfl | hentry
  · exact hvalue
  · exact h.value_of_mem hentry

theorem mem_of_mem_insertFields {entry : String × Json} (h : entry ∈ insertFields members fields) :
    entry ∈ members ∨ entry ∈ fields := by
  induction members generalizing fields with
  | nil => exact .inr h
  | cons first rest ih =>
    have hrest : entry ∈ insertFields rest (Json.insertField first.1 first.2 fields) := h
    rcases ih hrest with hmem | hmem
    · exact .inl (List.mem_cons_of_mem _ hmem)
    rcases mem_insertField hmem with rfl | hmem
    · exact .inl List.mem_cons_self
    · exact .inr hmem

theorem mem_of_field?_ofFields (h : (ofFields members).field? name = some value) :
    (name, value) ∈ members := by
  have hlookup : (insertFields members []).lookup name = some value :=
    (field?_object _ name).symm.trans h
  rcases mem_of_mem_insertFields (mem_of_lookup_eq_some hlookup) with hmem | hmem
  · exact hmem
  · cases hmem

theorem Ordered.ofFields (h : ∀ entry ∈ members, Ordered entry.2) :
    Ordered (.ofFields members) := by
  refine .object (Ascending.insertFields .nil members) fun entry hentry => ?_
  rcases mem_of_mem_insertFields hentry with hmem | hmem
  · exact h entry hmem
  · cases hmem

theorem Ordered.nested (h : Ordered value) (path : String) : Ordered (nested path value) := by
  unfold Json.nested
  generalize (Text.splitOn '.' path).takeWhile (!·.isEmpty) = names
  induction names with
  | nil => exact h
  | cons name rest ih =>
    rw [List.foldr_cons]
    refine .object (List.pairwise_singleton _ _) fun entry hentry => ?_
    obtain rfl := List.mem_singleton.1 hentry
    exact ih

/-! One document over another. -/

theorem overlay_atom (h : above.object? = none) (under : Json) : overlay under above = above := by
  cases above with
  | object fields => cases h
  | _ => rw [overlay]; exact fun _ _ _ habove => by cases habove

theorem isObject_overlay (h : above.isObject = true) (under : Json) :
    (overlay under above).isObject = true := by
  obtain ⟨fields, rfl⟩ := isObject_iff_object?.1 h
  cases under with
  | object members => rw [overlay]; rfl
  | _ => rw [overlay]; exacts [h, nofun]

theorem overlaid_atom {under : Option Json} (h : (overlaid under above).object? = none) :
    overlaid under above = above := by
  cases under with
  | none => rfl
  | some old =>
    refine overlay_atom (object?_eq_none_iff.2 ?_) old
    cases habove : above.isObject with
    | false => rfl
    | true => exact (isObject_overlay habove old).symm.trans (object?_eq_none_iff.1 h)

theorem isObject_overlaid (h : above.isObject = true) (under : Option Json) :
    (overlaid under above).isObject = true := by
  cases under with
  | none => exact h
  | some old => exact isObject_overlay h old

theorem Ordered.overlay (hunder : Ordered under) (habove : Ordered above) :
    Ordered (overlay under above) := by
  induction habove generalizing under with
  | atom h =>
    rw [overlay_atom h]
    exact .atom h
  | @object fields hascending hvalues ih =>
    cases under with
    | object members =>
      rw [Config.overlay]
      clear hascending
      induction fields generalizing members with
      | nil => exact hunder
      | cons first rest ihrest =>
        obtain ⟨key, value⟩ := first
        rw [Config.overlayFields_cons]
        refine ihrest (fun entry hentry => hvalues entry (List.mem_cons_of_mem _ hentry))
          (fun entry hentry => ih entry (List.mem_cons_of_mem _ hentry)) _ ?_
        refine hunder.insertField ?_
        cases hold : members.lookup key with
        | none => exact hvalues _ List.mem_cons_self
        | some old => exact ih _ List.mem_cons_self (hunder.lookup hold)
    | _ => rw [Config.overlay]; exacts [.object hascending hvalues, nofun]

theorem Through.tail {rest : List String} (h : Through (name :: rest) (.object fields))
    (hvalue : fields.lookup name = some value) : Through rest value := by
  intro front hfront hne
  have hinner := h (name :: front) ((List.cons_prefix_cons).2 ⟨rfl, hfront⟩) (by simpa using hne)
  rwa [at?_cons_object, hvalue] at hinner

theorem Through.isObject {rest : List String} (h : Through (name :: rest) value) :
    value.isObject = true :=
  h [] List.nil_prefix (List.cons_ne_nil _ _).symm

/-- What is at a path in a document that lies over another is laid over what is there in the
other. -/
theorem at?_overlay (hordered : Ordered above) (h : Through path above) (under : Json) :
    (overlay under above).at? path =
      match above.at? path with
      | some value => some (overlaid (under.at? path) value)
      | none => under.at? path := by
  induction path generalizing under above with
  | nil => rfl
  | cons name rest ih =>
    obtain ⟨fields, rfl⟩ := isObject_iff_object?.1 h.isObject
    rw [at?_cons_object]
    cases under with
    | object members =>
      rw [overlay, at?_cons_object, at?_cons_object,
        Config.lookup_overlayFields hordered.ascending.nodup]
      cases hvalue : fields.lookup name with
      | none => rfl
      | some value =>
        cases hold : members.lookup name with
        | none =>
          change at? rest value = match at? rest value with
            | some inner => some (overlaid none inner)
            | none => none
          cases at? rest value <;> rfl
        | some old => exact ih (hordered.lookup hvalue) (h.tail hvalue) old
    | _ =>
      rw [overlay, at?_cons_object]
      · change (fields.lookup name).bind (at? rest) =
          match (fields.lookup name).bind (at? rest) with
          | some inner => some (overlaid none inner)
          | none => none
        cases (fields.lookup name).bind (at? rest) <;> rfl
      · exact nofun

/-! Several documents over one another. -/

theorem lastAt?_append (path : List String) (documents others : List Json) :
    lastAt? path (documents ++ others) = (lastAt? path others).or (lastAt? path documents) := by
  rw [lastAt?, List.filterMap_append, List.getLast?_append]
  rfl

theorem lastAt?_singleton (path : List String) (document : Json) :
    lastAt? path [document] = document.at? path := by
  cases h : document.at? path <;> simp [lastAt?, h]

theorem lastAt?_cons (path : List String) (document : Json) (documents : List Json) :
    lastAt? path (document :: documents) = (lastAt? path documents).or (document.at? path) := by
  rw [← List.singleton_append, lastAt?_append, lastAt?_singleton]

/-- Documents that have nothing at a path may be left out. -/
theorem lastAt?_of_forall_none {others : List Json}
    (h : ∀ document ∈ others, document.at? path = none) (behind : List Json) :
    lastAt? path (documents ++ others ++ behind) = lastAt? path (documents ++ behind) := by
  have hothers : others.filterMap (at? path) = [] := List.filterMap_eq_nil_iff.2 h
  rw [lastAt?, lastAt?, List.filterMap_append, List.filterMap_append, List.filterMap_append,
    hothers, List.append_nil]

/-- The value in the last document lies over something, which does not matter unless it is an
object. -/
theorem exists_overlaid_lastAt? (base : Json)
    (h : ∀ document ∈ documents, Ordered document ∧ Through path document) :
    ∃ under, (documents.foldl overlay base).at? path =
      (lastAt? path (base :: documents)).map (overlaid under) := by
  induction documents using List.reverseRecOn with
  | nil =>
    refine ⟨none, ?_⟩
    rw [lastAt?_singleton]
    exact Option.map_id'.symm
  | append_singleton documents last ih =>
    obtain ⟨under, hunder⟩ := ih fun document hmem => h document (List.mem_append_left _ hmem)
    obtain ⟨hordered, hthrough⟩ := h last (List.mem_append_right _ List.mem_cons_self)
    rw [List.foldl_append, List.foldl_cons, List.foldl_nil, at?_overlay hordered hthrough,
      ← List.cons_append, lastAt?_append, lastAt?_singleton]
    cases last.at? path with
    | none => exact ⟨under, hunder⟩
    | some value => exact ⟨_, rfl⟩

/-- What was at a path is there, or something else is. -/
theorem isSome_at?_foldl {base : Json} (hbase : (base.at? path).isSome = true)
    (h : ∀ document ∈ documents, Ordered document ∧ Through path document) :
    ((documents.foldl overlay base).at? path).isSome = true := by
  obtain ⟨under, hunder⟩ := exists_overlaid_lastAt? base h
  rw [hunder, Option.isSome_map, lastAt?_cons, Option.isSome_or, hbase, Bool.or_true]

/-- Where documents have objects, if anything, there are objects when they lie over each other. -/
theorem isObject_at?_foldl {base : Json} (hbase : (base.at? path).all Json.isObject = true)
    (hobject : ∀ document ∈ documents, (document.at? path).all Json.isObject = true)
    (h : ∀ document ∈ documents, Ordered document ∧ Through path document) :
    ((documents.foldl overlay base).at? path).all Json.isObject = true := by
  obtain ⟨under, hunder⟩ := exists_overlaid_lastAt? base h
  rw [hunder]
  cases hlast : lastAt? path (base :: documents) with
  | none => rfl
  | some value =>
    obtain ⟨document, hmem, hvalue⟩ := List.mem_filterMap.1 (List.mem_of_getLast? hlast)
    have hdocument : (document.at? path).all Json.isObject = true := by
      rcases List.mem_cons.1 hmem with rfl | hmem
      · exact hbase
      · exact hobject document hmem
    rw [hvalue] at hdocument
    exact isObject_overlaid hdocument under

/-- Where there is no object in the end, there is just what the last document has. -/
theorem at?_foldl_overlay {base : Json}
    (h : ∀ document ∈ documents, Ordered document ∧ Through path document)
    (hatom : ∀ value, (documents.foldl overlay base).at? path = some value →
      value.object? = none) :
    (documents.foldl overlay base).at? path = lastAt? path (base :: documents) := by
  obtain ⟨under, hunder⟩ := exists_overlaid_lastAt? base h
  rw [hunder] at hatom ⊢
  cases hlast : lastAt? path (base :: documents) with
  | none => rfl
  | some value =>
    rw [hlast] at hatom
    exact congrArg some (overlaid_atom (hatom _ rfl))

/-- A layer may be taken apart into the documents that it is made of. -/
theorem lastAt?_layer {name : String} {rest : List String} {others : List Json}
    (h : ∀ document ∈ others, Ordered document ∧ Through (name :: rest) document)
    (hatom : ∀ value, lastAt? (name :: rest) (documents ++ [others.foldl overlay (.object [])]) =
      some value → value.object? = none) :
    lastAt? (name :: rest) (documents ++ [others.foldl overlay (.object [])]) =
      lastAt? (name :: rest) (documents ++ others) := by
  obtain ⟨under, hunder⟩ := exists_overlaid_lastAt? (.object []) h
  have hempty : lastAt? (name :: rest) (.object [] :: others) = lastAt? (name :: rest) others :=
    (lastAt?_cons _ _ _).trans Option.or_none
  rw [hempty] at hunder
  rw [lastAt?_append, lastAt?_singleton, hunder] at hatom ⊢
  rw [lastAt?_append]
  cases hlast : lastAt? (name :: rest) others with
  | none => rfl
  | some value =>
    rw [hlast] at hatom
    exact congrArg some (overlaid_atom (hatom _ rfl))

theorem Ordered.foldl {base : Json} (hbase : Ordered base)
    (h : ∀ document ∈ documents, Ordered document) :
    Ordered (documents.foldl Config.overlay base) := by
  induction documents generalizing base with
  | nil => exact hbase
  | cons first rest ih =>
    exact ih (hbase.overlay (h first List.mem_cons_self)) fun document hmem =>
      h document (List.mem_cons_of_mem _ hmem)

end ClusterHealth.Json
