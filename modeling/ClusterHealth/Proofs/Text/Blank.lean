import ClusterHealth.Text.Blank
import Mathlib.Data.List.DropRight
import Mathlib.Data.String.Basic

/-! White space around a text: what trimming leaves is the only part of the text that has none at
its ends and nothing but white space around it. -/
namespace ClusterHealth.Text

/-- No white space at either end. -/
def Trimmed (chars : List Char) : Prop :=
  (∀ c ∈ chars.head?, isBlank c = false) ∧ ∀ c ∈ chars.getLast?, isBlank c = false

variable {chars kept front back : List Char} {text : String}

theorem blank_iff : blank text = true ↔ ∀ c ∈ text.toList, isBlank c = true := List.all_eq_true

theorem Trimmed.of_forall (h : ∀ c ∈ chars, isBlank c = false) : Trimmed chars :=
  ⟨fun c hc => h c (List.mem_of_mem_head? hc), fun c hc => h c (List.mem_of_getLast? hc)⟩

theorem trimBlankChars_eq_rdropWhile (chars : List Char) :
    trimBlankChars chars = (chars.dropWhile isBlank).rdropWhile isBlank := rfl

theorem trimmed_trimBlankChars (chars : List Char) : Trimmed (trimBlankChars chars) := by
  rw [trimBlankChars_eq_rdropWhile]
  constructor
  · intro c hc
    have hprefix : (chars.dropWhile isBlank).rdropWhile isBlank <+: chars.dropWhile isBlank :=
      List.rdropWhile_prefix isBlank _
    have hhead := List.head?_dropWhile_not isBlank chars
    cases hkept : (chars.dropWhile isBlank).rdropWhile isBlank with
    | nil => simp [hkept] at hc
    | cons first rest =>
      rw [hkept] at hc hprefix
      obtain ⟨behind, hbehind⟩ := hprefix
      obtain rfl := Option.some.inj hc
      rw [← hbehind] at hhead
      simpa using hhead
  · intro c hc
    obtain ⟨hne, rfl⟩ := List.mem_getLast?_eq_getLast hc
    exact Bool.eq_false_iff.2 (List.rdropWhile_last_not isBlank _ hne)

theorem exists_around (chars : List Char) : ∃ front back, (∀ c ∈ front, isBlank c = true) ∧
    (∀ c ∈ back, isBlank c = true) ∧ chars = front ++ trimBlankChars chars ++ back := by
  refine ⟨chars.takeWhile isBlank, (chars.dropWhile isBlank).rtakeWhile isBlank,
    fun c hc => List.mem_takeWhile_imp hc, fun c hc => List.mem_rtakeWhile_imp hc, ?_⟩
  rw [trimBlankChars_eq_rdropWhile, List.append_assoc, List.rdropWhile_append_rtakeWhile,
    List.takeWhile_append_dropWhile]

theorem trimBlankChars_around (hfront : ∀ c ∈ front, isBlank c = true)
    (hback : ∀ c ∈ back, isBlank c = true) (h : Trimmed kept) :
    trimBlankChars (front ++ kept ++ back) = kept := by
  have hdropped : (kept ++ back).dropWhile isBlank = kept ++ back ∨ kept = [] := by
    cases kept with
    | nil => exact .inr rfl
    | cons first rest =>
      have hfirst : isBlank first = false := h.1 first rfl
      exact .inl (by simp [hfirst])
  have hlast : kept.rdropWhile isBlank = kept := by
    refine List.rdropWhile_eq_self_iff.2 fun hne => ?_
    rw [Bool.not_eq_true]
    exact h.2 _ (List.getLast?_eq_some_getLast hne)
  rw [trimBlankChars, List.append_assoc, List.dropWhile_append_of_pos hfront]
  rcases hdropped with hdropped | rfl
  · rw [hdropped, List.reverse_append, List.dropWhile_append_of_pos fun c hc =>
      hback c (List.mem_reverse.1 hc)]
    exact hlast
  · have hnone : back.dropWhile isBlank = [] := List.dropWhile_eq_nil_iff.2 hback
    rw [List.nil_append, hnone]
    rfl

/-- What trimming leaves. -/
theorem trim_eq_iff {kept : String} : trim text = kept ↔
    Trimmed kept.toList ∧ ∃ front back, blank front = true ∧ blank back = true ∧
      text = front ++ kept ++ back := by
  constructor
  · rintro rfl
    obtain ⟨front, back, hfront, hback, hchars⟩ := exists_around text.toList
    rw [trim, String.toList_ofList]
    refine ⟨trimmed_trimBlankChars _, .ofList front, .ofList back, ?_, ?_, ?_⟩
    · rw [blank_iff, String.toList_ofList]
      exact hfront
    · rw [blank_iff, String.toList_ofList]
      exact hback
    · apply String.toList_injective
      simpa using hchars
  · rintro ⟨hkept, front, back, hfront, hback, rfl⟩
    rw [trim, String.toList_append, String.toList_append,
      trimBlankChars_around (blank_iff.1 hfront) (blank_iff.1 hback) hkept, String.ofList_toList]

theorem trim_eq_empty_iff : trim text = "" ↔ blank text = true := by
  rw [trim_eq_iff, blank_iff]
  constructor
  · rintro ⟨-, front, back, hfront, hback, rfl⟩ c hc
    simp only [String.toList_append, List.mem_append] at hc
    rcases hc with (hc | hc) | hc
    · exact blank_iff.1 hfront c hc
    · cases hc
    · exact blank_iff.1 hback c hc
  · intro h
    exact ⟨.of_forall nofun, text, "", blank_iff.2 h, rfl, by simp⟩

end ClusterHealth.Text
