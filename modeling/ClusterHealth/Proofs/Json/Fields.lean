import ClusterHealth.Config.Overlay
import Mathlib.Data.List.Forall2
import Mathlib.Data.String.Basic

/-! Fields in the order of their keys: what is found under a name after others were put in or whole
objects were laid over them. -/
namespace ClusterHealth.Json

/-- The keys ascend, so that each is there once. -/
def Ascending (fields : List (String × α)) : Prop := fields.Pairwise fun a b => a.1 < b.1

/-- Fields with others put in, the last of one name over those before it. -/
def insertFields (members fields : List (String × α)) : List (String × α) :=
  members.foldl (fun fields (key, value) => insertField key value fields) fields

variable {α β : Type} {key name : String} {value : α} {fields members : List (String × α)}

theorem mem_insertField {entry : String × α} (h : entry ∈ insertField key value fields) :
    entry = (key, value) ∨ entry ∈ fields := by
  induction fields with
  | nil => exact .inl (List.mem_singleton.1 h)
  | cons first rest ih =>
    obtain ⟨k, v⟩ := first
    unfold insertField at h
    split at h
    · exact List.mem_cons.1 h
    split at h
    · exact (List.mem_cons.1 h).imp_right (List.mem_cons_of_mem _)
    · rcases List.mem_cons.1 h with rfl | h
      · exact .inr List.mem_cons_self
      · exact (ih h).imp_right (List.mem_cons_of_mem _)

theorem Ascending.insertField (h : Ascending fields) (key : String) (value : α) :
    Ascending (insertField key value fields) := by
  induction fields with
  | nil => exact List.pairwise_singleton _ _
  | cons first rest ih =>
    obtain ⟨k, v⟩ := first
    obtain ⟨hfirst, hrest⟩ := List.pairwise_cons.1 h
    unfold Json.insertField
    split
    · rename_i hlt
      refine List.pairwise_cons.2 ⟨fun entry hentry => ?_, h⟩
      rcases List.mem_cons.1 hentry with rfl | hentry
      · exact hlt
      · exact lt_trans hlt (hfirst entry hentry)
    split
    · rename_i heq
      subst heq
      exact List.pairwise_cons.2 ⟨hfirst, hrest⟩
    · rename_i hlt heq
      refine List.pairwise_cons.2 ⟨fun entry hentry => ?_, ih hrest⟩
      rcases mem_insertField hentry with rfl | hentry
      · exact lt_of_le_of_ne (not_lt.1 hlt) (Ne.symm heq)
      · exact hfirst entry hentry

theorem Ascending.insertFields (h : Ascending fields) (members : List (String × α)) :
    Ascending (insertFields members fields) := by
  induction members generalizing fields with
  | nil => exact h
  | cons first rest ih => exact ih (h.insertField first.1 first.2)

theorem Ascending.nodup (h : Ascending fields) : (fields.map Prod.fst).Nodup :=
  List.Pairwise.map Prod.fst (fun _ _ hlt => ne_of_lt hlt) h

theorem lookup_cons (key : String) (value : α) (fields : List (String × α)) (name : String) :
    ((key, value) :: fields).lookup name =
      if name = key then some value else fields.lookup name := by
  by_cases h : name = key
  · rw [List.lookup_cons, beq_iff_eq.2 h, if_pos h]
  · rw [List.lookup_cons, beq_eq_false_iff_ne.2 h, if_neg h]

theorem lookup_insertField (key : String) (value : α) (fields : List (String × α)) (name : String) :
    (insertField key value fields).lookup name =
      if name = key then some value else fields.lookup name := by
  induction fields with
  | nil => exact lookup_cons key value [] name
  | cons first rest ih =>
    obtain ⟨k, v⟩ := first
    unfold insertField
    split
    · rw [lookup_cons]
    split
    · rename_i heq
      subst heq
      rw [lookup_cons, lookup_cons]
      split <;> rfl
    · rename_i hne
      rw [lookup_cons, ih, lookup_cons]
      by_cases h : name = k
      · rw [if_pos h, if_pos h, if_neg fun heq => hne (heq.symm.trans h)]
      · rw [if_neg h, if_neg h]

theorem lookup_eq_none (h : name ∉ fields.map Prod.fst) : fields.lookup name = none := by
  refine List.lookup_eq_none_iff.2 fun entry hentry => ?_
  have hne : name ≠ entry.1 := by
    rintro rfl
    exact h (List.mem_map_of_mem hentry)
  simpa using hne

/-- Where a name is put in once at most, its value is the one put in or, without any, the old
one. -/
theorem lookup_insertFields {names : List String} (hname : name ∈ names)
    (hunique : ((members.map Prod.fst).filter (· ∈ names)).Nodup) (fields : List (String × α)) :
    (insertFields members fields).lookup name = (members.lookup name).or (fields.lookup name) := by
  induction members generalizing fields with
  | nil => rfl
  | cons first rest ih =>
    obtain ⟨k, v⟩ := first
    rw [List.map_cons, List.filter_cons] at hunique
    change (insertFields rest (insertField k v fields)).lookup name = _
    by_cases h : name = k
    · subst h
      rw [if_pos (decide_eq_true hname), List.nodup_cons, List.mem_filter] at hunique
      have hnew : rest.lookup name = none :=
        lookup_eq_none fun hmem => hunique.1 ⟨hmem, decide_eq_true hname⟩
      rw [ih hunique.2, lookup_insertField, lookup_cons, hnew, if_pos rfl, if_pos rfl]
      rfl
    · have hrest : ((rest.map Prod.fst).filter (· ∈ names)).Nodup := by
        split at hunique
        · exact (List.nodup_cons.1 hunique).2
        · exact hunique
      rw [ih hrest, lookup_insertField, lookup_cons, if_neg h, if_neg h]

theorem mem_insertField_self : (key, value) ∈ insertField key value fields := by
  induction fields with
  | nil => exact List.mem_cons_self
  | cons first rest ih =>
    unfold insertField
    split
    · exact List.mem_cons_self
    split
    · exact List.mem_cons_self
    · exact List.mem_cons_of_mem _ ih

theorem mem_insertField_of_ne {entry : String × α} (h : entry ∈ fields) (hne : entry.1 ≠ key) :
    entry ∈ insertField key value fields := by
  induction fields with
  | nil => cases h
  | cons first rest ih =>
    unfold insertField
    split
    · exact List.mem_cons_of_mem _ h
    split
    · rename_i heq
      rcases List.mem_cons.1 h with rfl | h
      · exact absurd heq.symm hne
      · exact List.mem_cons_of_mem _ h
    · rcases List.mem_cons.1 h with rfl | h
      · exact List.mem_cons_self
      · exact List.mem_cons_of_mem _ (ih h)

theorem mem_insertFields {entry : String × α} (h : entry ∈ fields)
    (hnew : entry.1 ∉ members.map Prod.fst) : entry ∈ insertFields members fields := by
  induction members generalizing fields with
  | nil => exact h
  | cons first rest ih =>
    rw [List.map_cons, List.mem_cons, not_or] at hnew
    exact ih (mem_insertField_of_ne h hnew.1) hnew.2

/-- Members of different names are all there in the end. -/
theorem mem_insertFields_of_mem {entry : String × α} (h : entry ∈ members)
    (hnames : (members.map Prod.fst).Nodup) (fields : List (String × α)) :
    entry ∈ insertFields members fields := by
  induction members generalizing fields with
  | nil => cases h
  | cons first rest ih =>
    rw [List.map_cons, List.nodup_cons] at hnames
    rcases List.mem_cons.1 h with rfl | h
    · change entry ∈ insertFields rest (insertField entry.1 entry.2 fields)
      exact mem_insertFields mem_insertField_self hnames.1
    · exact ih h hnames.2 _

/-- Fields of the same names in the same order, with related values. -/
def Alike (P : α → β → Prop) (fields : List (String × α)) (others : List (String × β)) : Prop :=
  List.Forall₂ (fun a b => a.1 = b.1 ∧ P a.2 b.2) fields others

namespace Alike
variable {P : α → β → Prop} {others : List (String × β)} {other : β}

theorem lookup_some {value : α} (h : Alike P fields others)
    (hvalue : fields.lookup name = some value) :
    ∃ other, others.lookup name = some other ∧ P value other := by
  induction h with
  | nil => cases hvalue
  | @cons first second fields others hfirst _ ih =>
    obtain ⟨k, v⟩ := first
    obtain ⟨k', w⟩ := second
    obtain ⟨rfl, hp⟩ := hfirst
    rw [lookup_cons] at hvalue ⊢
    split at hvalue
    · rename_i heq
      obtain rfl := Option.some.inj hvalue
      exact ⟨w, if_pos heq, hp⟩
    · rename_i hne
      rw [if_neg hne]
      exact ih hvalue

theorem map_fst (h : Alike P fields others) : fields.map Prod.fst = others.map Prod.fst := by
  induction h with
  | nil => rfl
  | cons hfirst _ ih => rw [List.map_cons, List.map_cons, hfirst.1, ih]

theorem lookup_none (h : Alike P fields others) (hnone : fields.lookup name = none) :
    others.lookup name = none := by
  refine lookup_eq_none ?_
  rw [← h.map_fst]
  rintro hmem
  obtain ⟨entry, hentry, rfl⟩ := List.mem_map.1 hmem
  have hne := List.lookup_eq_none_iff.1 hnone entry hentry
  simp at hne

theorem insertField (h : Alike P fields others) (hvalue : P value other) (key : String) :
    Alike P (insertField key value fields) (insertField key other others) := by
  induction h with
  | nil => exact .cons ⟨rfl, hvalue⟩ .nil
  | @cons first second fields others hfirst hrest ih =>
    obtain ⟨k, v⟩ := first
    obtain ⟨k', w⟩ := second
    obtain ⟨rfl, hp⟩ := hfirst
    unfold Json.insertField
    split
    · exact .cons ⟨rfl, hvalue⟩ (.cons ⟨rfl, hp⟩ hrest)
    split
    · exact .cons ⟨rfl, hvalue⟩ hrest
    · exact .cons ⟨rfl, hp⟩ ih

theorem insertFields {members : List (String × α)} {added : List (String × β)}
    (hmembers : Alike P members added) (h : Alike P fields others) :
    Alike P (insertFields members fields) (insertFields added others) := by
  induction hmembers generalizing fields others with
  | nil => exact h
  | @cons first second _ _ hfirst _ ih =>
    obtain ⟨k, v⟩ := first
    obtain ⟨k', w⟩ := second
    obtain ⟨rfl, hp⟩ := hfirst
    exact ih (h.insertField hp k)

end Alike

/-- Values in the order of their names. -/
theorem alike_zip {P : α → β → Prop} {values : List α} {others : List β}
    (h : List.Forall₂ P values others) (names : List String) :
    Alike P (names.zip values) (names.zip others) := by
  induction h generalizing names with
  | nil =>
    rw [List.zip_nil_right, List.zip_nil_right]
    exact .nil
  | cons hfirst _ ih =>
    cases names with
    | nil => exact .nil
    | cons name names => exact .cons ⟨rfl, hfirst⟩ (ih names)

theorem mapM_eq_some_iff {read : α → Option β} {values : List (String × β)} :
    (fields.mapM fun (name, value) => (read value).map (name, ·)) = some values ↔
      Alike (fun value x => read value = some x) fields values := by
  induction fields generalizing values with
  | nil =>
    rw [List.mapM_nil]
    constructor
    · intro h
      obtain rfl := Option.some.inj h
      exact .nil
    · rintro ⟨⟩
      rfl
  | cons first rest ih =>
    obtain ⟨name, value⟩ := first
    simp only [List.mapM_cons, Option.bind_eq_bind, Option.bind_eq_some_iff, Option.map_eq_some_iff]
    constructor
    · rintro ⟨-, ⟨x, hx, rfl⟩, others, hothers, h⟩
      obtain rfl := Option.some.inj h
      exact .cons ⟨rfl, hx⟩ (ih.1 hothers)
    · intro h
      cases h with
      | @cons _ second _ others hfirst hothers =>
        obtain ⟨name', x⟩ := second
        obtain ⟨rfl, hx⟩ := hfirst
        exact ⟨(name, x), ⟨x, hx, rfl⟩, others, ih.2 hothers, rfl⟩

/-- What can be read one by one can be read at once. -/
theorem exists_alike {P : α → β → Prop} (h : ∀ entry ∈ fields, ∃ x, P entry.2 x) :
    ∃ values : List (String × β), Alike P fields values := by
  induction fields with
  | nil => exact ⟨[], .nil⟩
  | cons first rest ih =>
    obtain ⟨x, hx⟩ := h first List.mem_cons_self
    obtain ⟨values, hvalues⟩ := ih fun entry hentry => h entry (List.mem_cons_of_mem _ hentry)
    exact ⟨(first.1, x) :: values, .cons ⟨rfl, hx⟩ hvalues⟩

theorem Alike.exists_of_mem {P : α → β → Prop} {others : List (String × β)}
    (h : Alike P fields others) {entry : String × α} (hentry : entry ∈ fields) :
    ∃ x, P entry.2 x := by
  induction h with
  | nil => cases hentry
  | @cons _ second _ _ hfirst _ ih =>
    rcases List.mem_cons.1 hentry with rfl | hentry
    · exact ⟨second.2, hfirst.2⟩
    · exact ih hentry

end ClusterHealth.Json

namespace ClusterHealth.Config
open Json (Ascending Alike insertFields)

variable {under above : List (String × Json)} {name : String}

/-- `above` over what is under it, if anything is. -/
def overlaid (under : Option Json) (above : Json) : Json :=
  match under with
  | some old => overlay old above
  | none => above

theorem overlayFields_cons (key : String) (value : Json) :
    overlayFields under ((key, value) :: above) =
      overlayFields (Json.insertField key (overlaid (under.lookup key) value) under) above := by
  rw [overlayFields]
  rfl

theorem lookup_overlayFields (hnames : (above.map Prod.fst).Nodup)
    (under : List (String × Json)) (name : String) :
    (overlayFields under above).lookup name =
      match above.lookup name with
      | some value => some (overlaid (under.lookup name) value)
      | none => under.lookup name := by
  induction above generalizing under with
  | nil => rfl
  | cons first rest ih =>
    obtain ⟨k, v⟩ := first
    rw [List.map_cons, List.nodup_cons] at hnames
    rw [overlayFields_cons, ih hnames.2, Json.lookup_insertField, Json.lookup_cons]
    by_cases h : name = k
    · subst h
      rw [Json.lookup_eq_none hnames.1, if_pos rfl, if_pos rfl]
    · rw [if_neg h, if_neg h]

/-- Where nothing is combined, fields are only put in. -/
theorem overlayFields_eq_insertFields (hnames : (above.map Prod.fst).Nodup)
    (h : ∀ name ∈ above.map Prod.fst, ∀ value, overlaid (under.lookup name) value = value) :
    overlayFields under above = insertFields above under := by
  induction above generalizing under with
  | nil => rfl
  | cons first rest ih =>
    obtain ⟨k, v⟩ := first
    rw [List.map_cons, List.nodup_cons] at hnames
    rw [overlayFields_cons, h k List.mem_cons_self]
    refine ih hnames.2 fun name hname value => ?_
    have hne : name ≠ k := by
      rintro rfl
      exact hnames.1 hname
    rw [Json.lookup_insertField, if_neg hne]
    exact h name (List.mem_cons_of_mem _ hname) value

end ClusterHealth.Config
