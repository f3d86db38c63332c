import ClusterHealth.Json.Record
import ClusterHealth.Proofs.Json.Writing
import Mathlib.Data.List.Forall2

/-! What documents say: texts however they are spelled, lists item by item, and objects by the
fields they have, whatever else is in them. Records read just that. -/
namespace ClusterHealth.Json

/-- The body of a text spells its characters, each for itself, escaped or as code units. -/
inductive Spells : List Char → List Char → Prop
  | nil : Spells [] []
  | plain {c : Char} {body text : List Char} (hquote : c ≠ '"') (hbackslash : c ≠ '\\')
      (hvisible : 0x20 ≤ c.toNat) (h : Spells body text) : Spells (c :: body) (c :: text)
  | escape {c : Char} {body text : List Char} (hescape : isEscape c = true)
      (h : Spells body text) : Spells ('\\' :: c :: body) (escapedChar c :: text)
  | unit {a b c d : Char} {body text : List Char} (hhex : ∀ x ∈ [a, b, c, d], isHex x = true)
      (hunit : codeUnit a b c d < 0xd800 ∨ 0xdfff < codeUnit a b c d) (h : Spells body text) :
      Spells ('\\' :: 'u' :: a :: b :: c :: d :: body) (Char.ofNat (codeUnit a b c d) :: text)
  | pair {a b c d a' b' c' d' : Char} {body text : List Char}
      (hhex : ∀ x ∈ [a, b, c, d], isHex x = true) (hhex' : ∀ x ∈ [a', b', c', d'], isHex x = true)
      (hhigh : 0xd800 ≤ codeUnit a b c d ∧ codeUnit a b c d ≤ 0xdbff)
      (hlow : 0xdc00 ≤ codeUnit a' b' c' d' ∧ codeUnit a' b' c' d' ≤ 0xdfff)
      (h : Spells body text) :
      Spells ('\\' :: 'u' :: a :: b :: c :: d :: '\\' :: 'u' :: a' :: b' :: c' :: d' :: body)
        (Char.ofNat (0x10000 + (codeUnit a b c d - 0xd800) * 0x400 +
          (codeUnit a' b' c' d' - 0xdc00)) :: text)

/-- Characters that need no escape. -/
def isPlain (c : Char) : Bool := c != '"' && c != '\\' && 0x20 ≤ c.toNat

namespace Spells
variable {body text : List Char}

theorem isBody (h : Spells body text) : IsBody body := by
  induction h with
  | nil => exact .nil
  | plain hquote hbackslash hvisible _ ih => exact .plain hquote hbackslash hvisible ih
  | escape hescape _ ih => exact .escape hescape ih
  | unit hhex _ _ ih => exact .unit hhex ih
  | pair hhex hhex' _ _ _ ih => exact .unit hhex (.unit hhex' ih)

theorem decodeBody_eq (h : Spells body text) : decodeBody body = some text := by
  induction h with
  | nil => rfl
  | @plain c body _ _ hbackslash _ _ ih =>
    rw [decodeBody, ih]
    · rfl
    · exact fun _ _ _ _ _ hc => absurd hc hbackslash
    · exact fun _ _ hc => absurd hc hbackslash
  | @escape c body _ hescape _ ih =>
    have hunit : c ≠ 'u' := by
      rintro rfl
      cases hescape
    rw [decodeBody, ih]
    · rfl
    · exact fun _ _ _ _ _ hc => absurd hc hunit
  | @unit a b c d body _ _ hunit _ ih =>
    have hlow : ¬(0xdc00 ≤ codeUnit a b c d ∧ codeUnit a b c d ≤ 0xdfff) := by omega
    have hhigh : ¬(0xd800 ≤ codeUnit a b c d ∧ codeUnit a b c d ≤ 0xdbff) := by omega
    rw [decodeBody.eq_def]
    refine (if_neg hlow).trans ((if_neg hhigh).trans ?_)
    rw [ih]
    rfl
  | pair _ _ hhigh hlow _ ih =>
    rw [decodeBody]
    dsimp only
    rw [if_neg (by omega), if_pos hhigh]
    change (if _ then _ else _) = _
    rw [if_pos hlow, ih]
    rfl

/-- What needs no escape stands for itself. -/
theorem of_plain {text : List Char} (h : text.all isPlain = true) : Spells text text := by
  induction text with
  | nil => exact .nil
  | cons c text ih =>
    rw [List.all_cons, Bool.and_eq_true] at h
    obtain ⟨⟨hquote, hbackslash⟩, hvisible⟩ : (c ≠ '"' ∧ c ≠ '\\') ∧ 0x20 ≤ c.toNat := by
      simpa [isPlain] using h.1
    exact .plain hquote hbackslash hvisible (ih h.2)

end Spells

theorem decodeText?_of_spells {body : List Char} {text : String} (h : Spells body text.toList) :
    decodeText? body = some text := by
  rw [decodeText?, h.decodeBody_eq, Option.map_some, String.ofList_toList]

theorem mapM_of_forall₂ {α β : Type} {f : α → Option β} {items : List α} {values : List β}
    (h : List.Forall₂ (fun item value => f item = some value) items values) :
    items.mapM f = some values := by
  induction h with
  | nil => rfl
  | cons hfirst _ ih =>
    rw [List.mapM_cons, hfirst, ih]
    rfl

section Meanings
variable {α : Type}

/-- A text in quotes. -/
def MeansText (doc : Document) (text : String) : Prop :=
  ∃ body, doc = .string body ∧ Spells body text.toList

def MeansList (means : Document → α → Prop) (doc : Document) (values : List α) : Prop :=
  ∃ items, doc = .array items ∧ List.Forall₂ means items values

/-- An object whose members are as described, their keys spelled in any way. -/
def MeansObject (means : List (String × Document) → α → Prop) (doc : Document) (value : α) : Prop :=
  ∃ written members, doc = .object written ∧
    List.Forall₂ (fun m n => Spells m.1 n.1.toList ∧ m.2 = n.2) written members ∧
    means members value

/-- There is one member of the name, and it means the value. -/
def Has (name : String) (means : Document → α → Prop) (members : List (String × Document))
    (value : α) : Prop :=
  ∃ doc, membersNamed name members = [doc] ∧ means doc value

/-- Without a member of the name, the value is `default`. -/
def HasOr (name : String) (default : α) (means : Document → α → Prop)
    (members : List (String × Document)) (value : α) : Prop :=
  Has name means members value ∨ membersNamed name members = [] ∧ value = default

/-- Without a member of the name, or with a null, there is no value. -/
def MayHave (name : String) (means : Document → α → Prop) (members : List (String × Document)) :
    Option α → Prop
  | none => membersNamed name members = [] ∨ membersNamed name members = [.null]
  | some value => Has name means members value

variable {name : String} {members : List (String × Document)} {means : Document → α → Prop}
  {value fallback : α}

/-- A field that can be read is not there twice. -/
theorem Has.single (h : Has name means members value) :
    (membersNamed name members).length ≤ 1 := by
  obtain ⟨doc, hdoc, -⟩ := h
  rw [hdoc, List.length_singleton]

theorem HasOr.single (h : HasOr name fallback means members value) :
    (membersNamed name members).length ≤ 1 := by
  rcases h with h | ⟨h, -⟩
  · exact h.single
  · rw [h]
    exact Nat.zero_le 1

theorem MayHave.single {value : Option α} (h : MayHave name means members value) :
    (membersNamed name members).length ≤ 1 := by
  cases value with
  | some value => exact Has.single h
  | none =>
    rcases h with h | h
    · rw [h]
      exact Nat.zero_le 1
    · rw [h, List.length_singleton]

/-- What a record holds of a field. -/
def slotFor (name : String) (members : List (String × Document)) : Slot :=
  match membersNamed name members with
  | [value] => .given value
  | _ => .absent

theorem slotFor_of_none (h : membersNamed name members = []) : slotFor name members = .absent := by
  rw [slotFor, h]

theorem slotFor_of_one {doc : Document} (h : membersNamed name members = [doc]) :
    slotFor name members = .given doc := by
  rw [slotFor, h]

theorem slotOf?_eq (h : (membersNamed name members).length ≤ 1) :
    slotOf? members name = some (name, slotFor name members) := by
  rw [slotOf?]
  cases hdocs : membersNamed name members with
  | nil => rw [slotFor_of_none hdocs]
  | cons first rest =>
    cases rest with
    | nil => rw [slotFor_of_one hdocs]
    | cons second rest =>
      rw [hdocs] at h
      simp at h

theorem slot_map (names : List String) (slots : String → Slot) (h : name ∈ names) :
    Record.slot (names.map fun name => (name, slots name)) name = slots name := by
  unfold Record.slot
  induction names with
  | nil => cases h
  | cons first rest ih =>
    rw [List.map_cons, List.lookup_cons]
    by_cases hfirst : name = first
    · subst hfirst
      rw [beq_self_eq_true]
      rfl
    · rw [beq_eq_false_iff_ne.2 hfirst]
      exact ih ((List.mem_cons.1 h).resolve_left hfirst)

/-- What a reader of records makes of an object. -/
theorem record?_bind {β : Type} {doc : Document} {names : List String}
    {described : List (String × Document) → α → Prop} {build : Record → Option β}
    {result : Option β} (h : MeansObject described doc value)
    (hsingle : ∀ members, described members value →
      ∀ name ∈ names, (membersNamed name members).length ≤ 1)
    (hbuild : ∀ members r, described members value →
      (∀ name ∈ names, Record.slot r name = slotFor name members) → build r = result) :
    (doc.record? names).bind build = result := by
  obtain ⟨written, members, rfl, hkeys, hmembers⟩ := h
  have hdecoded : decodeKeys? written = some members := by
    refine mapM_of_forall₂ (hkeys.imp fun m n hmn => ?_)
    change (decodeText? m.1).map (·, m.2) = some n
    rw [decodeText?_of_spells hmn.1, hmn.2]
    rfl
  have hslots : names.mapM (slotOf? members) =
      some (names.map fun name => (name, slotFor name members)) := by
    refine mapM_of_forall₂ (List.forall₂_map_right_iff.2 (List.forall₂_same.2 fun name hname => ?_))
    exact slotOf?_eq (hsingle members hmembers name hname)
  rw [Document.record?, hdecoded]
  change (names.mapM (slotOf? members)).bind build = result
  rw [hslots]
  exact hbuild members _ hmembers fun name hname => slot_map names _ hname

theorem text?_of_means {doc : Document} {text : String} (h : MeansText doc text) :
    doc.text? = some text := by
  obtain ⟨body, rfl, hbody⟩ := h
  exact decodeText?_of_spells hbody

theorem list?_eq_mapM {β : Type} {read : Document → Option β} {f : α → Option β} {doc : Document}
    {values : List α} (h : MeansList means doc values)
    (hread : ∀ doc value, means doc value → read doc = f value) :
    doc.list? read = values.mapM f := by
  obtain ⟨items, rfl, hitems⟩ := h
  change items.mapM read = values.mapM f
  induction hitems with
  | nil => rfl
  | cons hfirst _ ih => rw [List.mapM_cons, List.mapM_cons, hread _ _ hfirst, ih]

theorem list?_of_means {β : Type} {read : Document → Option β} {f : α → β} {doc : Document}
    {values : List α} (h : MeansList means doc values)
    (hread : ∀ doc value, means doc value → read doc = some (f value)) :
    doc.list? read = some (values.map f) := by
  rw [list?_eq_mapM h hread]
  exact mapM_of_forall₂ (List.forall₂_map_right_iff.2 (List.forall₂_same.2 fun _ _ => rfl))

namespace Record
variable {β : Type} {r : Record} {read : Document → Option β} {result : Option β}

theorem required_eq (hslot : r.slot name = slotFor name members)
    (h : Has name means members value) (hread : ∀ doc, means doc value → read doc = result) :
    r.required name read = result := by
  obtain ⟨doc, hdoc, hmeans⟩ := h
  rw [required, hslot, slotFor_of_one hdoc]
  exact hread doc hmeans

theorem orElse_eq {default : β} (hslot : r.slot name = slotFor name members)
    (h : HasOr name fallback means members value)
    (hread : ∀ doc, means doc value → read doc = result)
    (hdefault : value = fallback → some default = result) :
    r.orElse name default read = result := by
  rw [orElse, hslot]
  rcases h with ⟨doc, hdoc, hmeans⟩ | ⟨hnone, heq⟩
  · rw [slotFor_of_one hdoc]
    exact hread doc hmeans
  · rw [slotFor_of_none hnone]
    exact hdefault heq

theorem orElse_same {read : Document → Option α} (hslot : r.slot name = slotFor name members)
    (h : HasOr name fallback means members value)
    (hread : ∀ doc, means doc value → read doc = some value) :
    r.orElse name fallback read = some value :=
  orElse_eq hslot h hread fun hvalue => congrArg some hvalue.symm

theorem orElse_list {f : α → β} {values : List α} (hslot : r.slot name = slotFor name members)
    (h : HasOr name [] (MeansList means) members values)
    (hread : ∀ doc value, means doc value → read doc = some (f value)) :
    r.orElse name [] (Document.list? read) = some (values.map f) := by
  refine orElse_eq hslot h (fun _ hdoc => list?_of_means hdoc hread) fun hempty => ?_
  rw [hempty, List.map_nil]

theorem optional_eq {value : Option α} {read : Document → Option α}
    (hslot : r.slot name = slotFor name members) (h : MayHave name means members value)
    (hread : ∀ doc value, means doc value → read doc = some value) (hnull : read .null = none) :
    r.optional name read = some value := by
  rw [optional, hslot]
  cases value with
  | none =>
    rcases h with h | h
    · rw [slotFor_of_none h]
    · rw [slotFor_of_one h]
  | some value =>
    obtain ⟨doc, hdoc, hmeans⟩ := h
    have hvalue := hread doc value hmeans
    rw [slotFor_of_one hdoc]
    cases doc with
    | null => exact absurd (hnull.symm.trans hvalue) nofun
    | _ =>
      change (read _).map some = _
      rw [hvalue]
      rfl

end Record
end Meanings

section Printing
variable {α : Type} {means : Document → α → Prop}

def Document.Writable (doc : Document) : Prop := ∃ chars, Written (.value doc) chars

/-- There is a document that means the value, and a way to write it. -/
def Printable (means : Document → α → Prop) (value : α) : Prop :=
  ∃ doc : Document, means doc value ∧ doc.Writable

/-- Quotes and backslashes are escaped, and controls are written as code units. -/
theorem exists_spells (text : List Char) : ∃ body, Spells body text := by
  induction text with
  | nil => exact ⟨[], .nil⟩
  | cons c text ih =>
    obtain ⟨body, hbody⟩ := ih
    by_cases hquote : c = '"'
    · subst hquote
      exact ⟨_, .escape (c := '"') (by decide) hbody⟩
    by_cases hbackslash : c = '\\'
    · subst hbackslash
      exact ⟨_, .escape (c := '\\') (by decide) hbody⟩
    by_cases hvisible : 0x20 ≤ c.toNat
    · exact ⟨_, .plain hquote hbackslash hvisible hbody⟩
    have hcontrols : ∀ n < 0x20,
        codeUnit '0' '0' (Nat.digitChar (n / 16)) (Nat.digitChar (n % 16)) = n ∧
          ['0', '0', Nat.digitChar (n / 16), Nat.digitChar (n % 16)].all isHex = true := by
      decide
    obtain ⟨hunit, hhex⟩ := hcontrols c.toNat (by omega)
    have hspells := Spells.unit (List.all_eq_true.1 hhex) (.inl (by omega)) hbody
    rw [hunit, Char.ofNat_toNat] at hspells
    exact ⟨_, hspells⟩

theorem printable_text (text : String) : Printable MeansText text := by
  obtain ⟨body, hbody⟩ := exists_spells text.toList
  exact ⟨_, ⟨body, rfl, hbody⟩, _, .string hbody.isBody⟩

theorem writable_array {items : List Document} (h : ∀ item ∈ items, item.Writable) :
    (Document.array items).Writable := by
  cases items with
  | nil => exact ⟨_, .emptyArray (List.forall_mem_nil _ : Blank [])⟩
  | cons first rest =>
    suffices hitems : ∃ chars, Written (.items (first :: rest)) chars by
      obtain ⟨chars, hchars⟩ := hitems
      exact ⟨_, .array hchars⟩
    induction rest generalizing first with
    | nil =>
      obtain ⟨chars, hchars⟩ := h first List.mem_cons_self
      exact ⟨_, .lastItem hchars⟩
    | cons second rest ih =>
      obtain ⟨hfirst, hrest⟩ := List.forall_mem_cons.1 h
      obtain ⟨chars, hchars⟩ := hfirst
      obtain ⟨others, hothers⟩ := ih second hrest
      exact ⟨_, .item hchars hothers⟩

theorem writable_object {members : List (List Char × Document)}
    (h : ∀ m ∈ members, IsBody m.1 ∧ m.2.Writable) : (Document.object members).Writable := by
  have hlabel {key : List Char} (hkey : IsBody key) : WrittenKey key ('"' :: (key ++ ['"'])) :=
    ⟨[], [], List.forall_mem_nil _, hkey, List.forall_mem_nil _, rfl⟩
  cases members with
  | nil => exact ⟨_, .emptyObject (List.forall_mem_nil _ : Blank [])⟩
  | cons first rest =>
    suffices hmembers : ∃ chars, Written (.members (first :: rest)) chars by
      obtain ⟨chars, hchars⟩ := hmembers
      exact ⟨_, .object hchars⟩
    induction rest generalizing first with
    | nil =>
      obtain ⟨hkey, chars, hchars⟩ := h first List.mem_cons_self
      exact ⟨_, .lastMember (hlabel hkey) hchars⟩
    | cons second rest ih =>
      obtain ⟨⟨hkey, chars, hchars⟩, hrest⟩ := List.forall_mem_cons.1 h
      obtain ⟨others, hothers⟩ := ih second hrest
      exact ⟨_, .member (hlabel hkey) hchars hothers⟩

theorem printable_list {values : List α} (h : ∀ value ∈ values, Printable means value) :
    Printable (MeansList means) values := by
  suffices hitems : ∃ items, List.Forall₂ means items values ∧ ∀ item ∈ items, item.Writable by
    obtain ⟨items, hmeans, hwritable⟩ := hitems
    exact ⟨_, ⟨items, rfl, hmeans⟩, writable_array hwritable⟩
  induction values with
  | nil => exact ⟨[], .nil, List.forall_mem_nil _⟩
  | cons first rest ih =>
    obtain ⟨⟨doc, hmeans, hdoc⟩, hrest⟩ := List.forall_mem_cons.1 h
    obtain ⟨items, hitems, hwritable⟩ := ih hrest
    exact ⟨doc :: items, .cons hmeans hitems, List.forall_mem_cons.2 ⟨hdoc, hwritable⟩⟩

theorem printable_object {described : List (String × Document) → α → Prop} {value : α}
    {fields : List (String × Document)} (hfields : ∀ field ∈ fields, field.2.Writable)
    (h : described fields value) : Printable (MeansObject described) value := by
  suffices hmembers : ∃ written : List (List Char × Document),
      List.Forall₂ (fun m n => Spells m.1 n.1.toList ∧ m.2 = n.2) written fields ∧
        ∀ m ∈ written, IsBody m.1 ∧ m.2.Writable by
    obtain ⟨written, hkeys, hwritable⟩ := hmembers
    exact ⟨_, ⟨written, fields, rfl, hkeys, h⟩, writable_object hwritable⟩
  clear h
  induction fields with
  | nil => exact ⟨[], .nil, List.forall_mem_nil _⟩
  | cons first rest ih =>
    obtain ⟨hfirst, hrest⟩ := List.forall_mem_cons.1 hfields
    obtain ⟨body, hbody⟩ := exists_spells first.1.toList
    obtain ⟨written, hkeys, hwritable⟩ := ih hrest
    exact ⟨(body, first.2) :: written, .cons ⟨hbody, rfl⟩ hkeys,
      List.forall_mem_cons.2 ⟨⟨hbody.isBody, hfirst⟩, hwritable⟩⟩

/-- An object of one field. -/
theorem printable_field {value : α} (name : String) (fallback : α) (h : Printable means value) :
    Printable (MeansObject (HasOr name fallback means)) value := by
  obtain ⟨doc, hdoc, hwritable⟩ := h
  have hfields : ∀ field ∈ [(name, doc)], field.2.Writable := List.forall_mem_singleton.2 hwritable
  exact printable_object hfields (.inl ⟨doc, by simp [membersNamed], hdoc⟩)

/-- A field with a value, or with a null for none. -/
theorem exists_mayHave {value : Option α} (h : ∀ v ∈ value, Printable means v) :
    ∃ doc : Document, doc.Writable ∧
      ∀ name members, membersNamed name members = [doc] → MayHave name means members value := by
  cases value with
  | none => exact ⟨.null, ⟨_, .null⟩, fun _ _ hnull => .inr hnull⟩
  | some v =>
    obtain ⟨doc, hdoc, hwritable⟩ := h v rfl
    exact ⟨doc, hwritable, fun _ _ hone => ⟨doc, hone, hdoc⟩⟩

end Printing

/-- Nothing in it has to be escaped. -/
def Plain (text : String) : Prop := text.toList.all isPlain = true

instance (text : String) : Decidable (Plain text) :=
  inferInstanceAs (Decidable (text.toList.all isPlain = true))

theorem meansText_of_plain (text : String) (h : Plain text) :
    MeansText (.string text.toList) text :=
  ⟨_, rfl, .of_plain h⟩

theorem written_of_plain (text : String) (h : Plain text) :
    Written (.value (.string text.toList)) ('"' :: (text.toList ++ ['"'])) :=
  .string (Spells.of_plain h).isBody

theorem writtenKey_of_plain (key : String) (h : Plain key) :
    WrittenKey key.toList ('"' :: (key.toList ++ ['"'])) :=
  ⟨[], [], List.forall_mem_nil _, (Spells.of_plain h).isBody, List.forall_mem_nil _, rfl⟩

theorem meansObject_of_plain {α : Type} {described : List (String × Document) → α → Prop}
    {value : α} (fields : List (String × Document)) (hplain : ∀ field ∈ fields, Plain field.1)
    (h : described fields value) :
    MeansObject described (.object (fields.map fun field => (field.1.toList, field.2))) value := by
  refine ⟨_, fields, rfl,
    List.forall₂_map_left_iff.2 (List.forall₂_same.2 fun field hfield => ?_), h⟩
  exact ⟨.of_plain (hplain field hfield), rfl⟩

end ClusterHealth.Json
