import ClusterHealth.Checks.Pods
import Mathlib.Data.List.Basic

/-! Names by how they begin, as services tell their pods apart. -/
namespace ClusterHealth

namespace Text

theorem startsWith_iff {text start : String} :
    startsWith text start = true ↔ ∃ rest, text = start ++ rest := by
  unfold startsWith
  rw [List.isPrefixOf_iff_prefix]
  constructor
  · intro h
    obtain ⟨rest, hrest⟩ := h
    refine ⟨String.ofList rest, String.toList_injective ?_⟩
    rw [String.toList_append, String.toList_ofList, hrest]
  · intro h
    obtain ⟨rest, rfl⟩ := h
    rw [String.toList_append]
    exact List.prefix_append _ _

theorem after?_eq_some {text start rest : String} :
    after? text start = some rest ↔ text = start ++ rest := by
  unfold after?
  rw [Option.map_eq_some_iff]
  constructor
  · intro h
    obtain ⟨chars, hchars, rfl⟩ := h
    rw [List.isPrefixOf?_eq_some_iff_append_eq] at hchars
    apply String.toList_injective
    rw [String.toList_append, String.toList_ofList, hchars]
  · intro h
    subst h
    refine ⟨rest.toList, ?_, String.ofList_toList⟩
    rw [List.isPrefixOf?_eq_some_iff_append_eq, String.toList_append]

/-- A text begins in two ways only if one of them begins in the other way. -/
theorem not_startsWith_of_apart {text start other : String} (h : startsWith text start = true)
    (hapart : ¬(start.toList <+: other.toList ∨ other.toList <+: start.toList)) :
    startsWith text other = false := by
  rw [← Bool.not_eq_true, startsWith, List.isPrefixOf_iff_prefix]
  intro hother
  rw [startsWith, List.isPrefixOf_iff_prefix] at h
  exact hapart (List.prefix_or_prefix_of_prefix h hother)

end Text

namespace Checks

/-- A stem, one digit or more, a dash and anything else. -/
def JobNamed (stem name : String) : Prop :=
  ∃ digits rest : String, digits ≠ "" ∧ (∀ d ∈ digits.toList, '0' ≤ d ∧ d ≤ '9') ∧
    name = stem ++ digits ++ "-" ++ rest

theorem isJobName_iff {name stem : String} : isJobName name stem = true ↔ JobNamed stem name := by
  have hdigit (d : Char) : Decimal.isDigit d = true ↔ '0' ≤ d ∧ d ≤ '9' := by
    rw [Decimal.isDigit, Bool.and_eq_true, decide_eq_true_eq, decide_eq_true_eq]
  unfold isJobName JobNamed
  constructor
  · intro h
    split at h
    · cases h
    · rename_i rest hrest
      dsimp only at h
      rw [Bool.and_eq_true, Bool.not_eq_true', List.isEmpty_eq_false_iff, beq_iff_eq] at h
      obtain ⟨hdigits, hdash⟩ := h
      obtain ⟨others, hothers⟩ := List.head?_eq_some_iff.1 hdash
      refine ⟨.ofList (rest.toList.takeWhile Decimal.isDigit), .ofList others, ?_, ?_, ?_⟩
      · rwa [ne_eq, String.ofList_eq_empty_iff]
      · intro d hd
        rw [String.toList_ofList] at hd
        exact (hdigit d).1 (List.all_eq_true.1 List.all_takeWhile d hd)
      · rw [Text.after?_eq_some.1 hrest]
        apply String.toList_injective
        simp only [String.toList_append, String.toList_ofList, List.append_assoc]
        change _ = _ ++ (_ ++ '-' :: others)
        rw [← hothers, List.takeWhile_append_dropWhile]
  · intro h
    obtain ⟨digits, rest, hsome, hdigits, rfl⟩ := h
    have hrest : Text.after? (stem ++ digits ++ "-" ++ rest) stem =
        some (digits ++ "-" ++ rest) := by
      rw [Text.after?_eq_some, String.append_assoc, String.append_assoc, String.append_assoc]
    have hchars : (digits ++ "-" ++ rest).toList = digits.toList ++ '-' :: rest.toList := by
      rw [String.toList_append, String.toList_append, List.append_assoc]
      rfl
    have hall : ∀ d ∈ digits.toList, Decimal.isDigit d = true :=
      fun d hd => (hdigit d).2 (hdigits d hd)
    rw [hrest]
    dsimp only
    rw [hchars, List.takeWhile_append_of_pos hall, List.dropWhile_append_of_pos hall,
      List.takeWhile_cons_of_neg (by decide), List.dropWhile_cons_of_neg (by decide)]
    simpa using hsome

theorem JobNamed.startsWith {stem name : String} (h : JobNamed stem name) :
    Text.startsWith name stem = true := by
  obtain ⟨digits, rest, -, -, rfl⟩ := h
  rw [Text.startsWith_iff]
  refine ⟨digits ++ "-" ++ rest, ?_⟩
  rw [String.append_assoc, String.append_assoc, String.append_assoc]

end Checks
end ClusterHealth
