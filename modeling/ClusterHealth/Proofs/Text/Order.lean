import ClusterHealth.Text.Utf8
import Mathlib.Data.String.Basic

/-! The order of texts is that of their bytes. What is sorted by name keeps its order as far as
names are the same. -/
namespace ClusterHealth.Text

theorem ofNat_lt_ofNat_iff {m n : Nat} (hm : m < 256) (hn : n < 256) :
    UInt8.ofNat m < UInt8.ofNat n ↔ m < n := by
  rw [UInt8.lt_iff_toNat_lt, UInt8.toNat_ofNat_of_lt' hm, UInt8.toNat_ofNat_of_lt' hn]

theorem ofNat_eq_ofNat_iff {m n : Nat} (hm : m < 256) (hn : n < 256) :
    UInt8.ofNat m = UInt8.ofNat n ↔ m = n := by
  rw [← UInt8.toNat_inj, UInt8.toNat_ofNat_of_lt' hm, UInt8.toNat_ofNat_of_lt' hn]

/-- A smaller character has smaller bytes, whatever follows them. -/
theorem encodeChar_append_lt {c d : Char} (h : c < d) (rest others : Bytes) :
    String.utf8EncodeChar c ++ rest < String.utf8EncodeChar d ++ others := by
  have hlt : c.val.toNat < d.val.toNat := h
  have hbound : d.val.toNat < 0x110000 := d.valid.elim (·.trans (by decide)) And.right
  unfold String.utf8EncodeChar
  generalize c.val.toNat = m at hlt
  generalize d.val.toNat = n at hlt hbound
  have hsplit (k : Nat) : k / 4096 = k / 64 / 64 ∧ k / 262144 = k / 64 / 64 / 64 := by omega
  simp only [hsplit]
  split_ifs <;>
  · simp (disch := omega) only [List.cons_append, List.cons_lt_cons_iff, ofNat_lt_ofNat_iff,
      ofNat_eq_ofNat_iff]
    omega

theorem encodeUtf8_lt {first second : String} (h : first < second) :
    encodeUtf8 first < encodeUtf8 second := by
  rw [String.lt_iff_toList_lt] at h
  unfold encodeUtf8
  generalize first.toList = chars at h
  generalize second.toList = others at h
  induction h with
  | @nil c others =>
    rw [List.flatMap_nil, List.flatMap_cons]
    cases hbytes : String.utf8EncodeChar c with
    | nil => exact absurd hbytes String.utf8EncodeChar_ne_nil
    | cons b bytes => exact List.nil_lt_cons b _
  | rel h => exact encodeChar_append_lt h _ _
  | cons _ ih => exact List.append_left_lt ih

theorem encodeUtf8_le_iff {first second : String} :
    encodeUtf8 first ≤ encodeUtf8 second ↔ first ≤ second := by
  rw [← List.not_lt, ← not_lt]
  refine not_congr ⟨fun h => ?_, encodeUtf8_lt⟩
  by_contra hle
  rcases (not_lt.1 hle).lt_or_eq with hlt | rfl
  · exact List.lt_asymm h (encodeUtf8_lt hlt)
  · exact List.lt_irrefl _ h

section Sorting
variable {α : Type} {name : α → String} {items first second : List α}

/-- Whether the name of one item may stand before that of another. -/
def byName (name : α → String) (a b : α) : Bool := !(name b < name a)

theorem byName_iff {a b : α} : byName name a b = true ↔ name a ≤ name b := by
  rw [byName, Bool.not_eq_true', decide_eq_false_iff_not, not_lt]

theorem byName_trans (a b c : α) (hab : byName name a b = true) (hbc : byName name b c = true) :
    byName name a c = true :=
  byName_iff.2 ((byName_iff.1 hab).trans (byName_iff.1 hbc))

theorem byName_total (a b : α) : (byName name a b || byName name b a) = true := by
  rw [Bool.or_eq_true, byName_iff, byName_iff]
  exact le_total _ _

theorem pairwise_sorted (items : List α) :
    (items.mergeSort (byName name)).Pairwise fun a b => name a ≤ name b :=
  (List.pairwise_mergeSort byName_trans byName_total items).imp byName_iff.1

/-- Items of one name are the same ones in the same order. -/
theorem filter_name_sorted (items : List α) (text : String) :
    (items.mergeSort (byName name)).filter (name · = text) = items.filter (name · = text) := by
  have hsame : (items.filter (name · = text)).Pairwise fun a b => byName name a b = true := by
    refine List.pairwise_iff_forall_sublist.2 fun {a b} hsub => byName_iff.2 (le_of_eq ?_)
    have ha := List.of_mem_filter (hsub.subset List.mem_cons_self)
    have hb := List.of_mem_filter (hsub.subset (List.mem_cons_of_mem _ List.mem_cons_self))
    exact (of_decide_eq_true ha).trans (of_decide_eq_true hb).symm
  have hsub := List.sublist_mergeSort byName_trans byName_total hsame List.filter_sublist
  have hkept := hsub.filter (decide <| name · = text)
  rw [List.filter_filter] at hkept
  simp only [Bool.and_self] at hkept
  refine (hkept.eq_of_length ?_).symm
  exact ((List.mergeSort_perm items _).filter _).length_eq.symm

theorem mem_iff_of_filter_name
    (h : ∀ text, first.filter (name · = text) = second.filter (name · = text)) (a : α) :
    a ∈ first ↔ a ∈ second := by
  have ha := congrArg (a ∈ ·) (h (name a))
  simpa using ha

/-- Names in order and, of each name, the same items in the same order leave no choice. -/
theorem eq_of_sorted (hfirst : first.Pairwise fun a b => name a ≤ name b)
    (hsecond : second.Pairwise fun a b => name a ≤ name b)
    (h : ∀ text, first.filter (name · = text) = second.filter (name · = text)) :
    first = second := by
  have hmem := mem_iff_of_filter_name h
  induction first generalizing second with
  | nil =>
    exact (List.eq_nil_iff_forall_not_mem.2 fun a ha => List.not_mem_nil ((hmem a).2 ha)).symm
  | cons a first ih =>
    cases second with
    | nil => exact absurd ((hmem a).1 List.mem_cons_self) List.not_mem_nil
    | cons b second =>
      rw [List.pairwise_cons] at hfirst hsecond
      have hab : name a ≤ name b := by
        rcases List.mem_cons.1 ((hmem b).2 List.mem_cons_self) with rfl | hb
        · exact le_rfl
        · exact hfirst.1 b hb
      have hba : name b ≤ name a := by
        rcases List.mem_cons.1 ((hmem a).1 List.mem_cons_self) with rfl | ha
        · exact le_rfl
        · exact hsecond.1 a ha
      have hname : name b = name a := hba.antisymm hab
      have hhead := h (name a)
      simp only [List.filter_cons, hname, decide_true, if_true] at hhead
      obtain ⟨rfl, -⟩ := List.cons.inj hhead
      have htail (text : String) :
          first.filter (name · = text) = second.filter (name · = text) := by
        have htext := h text
        rw [List.filter_cons, List.filter_cons] at htext
        split at htext
        · exact (List.cons.inj htext).2
        · exact htext
      rw [ih hfirst.2 hsecond.2 htail (mem_iff_of_filter_name htail)]

theorem filter_sorted (name : α → String) (items : List α) (p : α → Bool) :
    (items.mergeSort (byName name)).filter p = (items.filter p).mergeSort (byName name) := by
  refine eq_of_sorted ((pairwise_sorted items).filter p) (pairwise_sorted _) fun text => ?_
  rw [filter_name_sorted, List.filter_comm, filter_name_sorted, List.filter_comm]

end Sorting
end ClusterHealth.Text
