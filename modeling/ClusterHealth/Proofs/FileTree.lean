import ClusterHealth.FileTree
import Mathlib.Data.List.DropRight
import Mathlib.Data.String.Basic

/-! Paths by their names: which name comes last, and when a path leads to an entry of a directory
wherever that lies. -/
namespace ClusterHealth

theorem Text.splitWhere_eq_splitOnP (cut : Char → Bool) (chars : List Char) :
    splitWhere cut chars = chars.splitOnP cut := by
  induction chars with
  | nil => rfl
  | cons c rest ih =>
    rw [splitWhere, ih, List.splitOnP_cons_eq_if_modifyHead]
    cases hparts : rest.splitOnP cut with
    | nil => exact absurd hparts (List.splitOnP_ne_nil cut rest)
    | cons part parts => rfl

namespace FileTree
variable {path name : String}

theorem names_eq (path : String) :
    names path = ((path.toList.splitOnP (· == '/')).map String.ofList).filter (!·.isEmpty) := by
  rw [names, Text.splitOn, Text.splitWhere_eq_splitOnP]

theorem names_append_slash (front back : String) :
    names (front ++ "/" ++ back) = names front ++ names back := by
  have hchars : (front ++ "/" ++ back).toList = front.toList ++ '/' :: back.toList := by
    rw [String.toList_append, String.toList_append, List.append_assoc]
    rfl
  rw [names_eq, names_eq, names_eq, hchars, List.splitOnP_append_cons _ _ rfl, List.map_append,
    List.filter_append]

theorem names_of_plain (hne : name ≠ "") (hplain : '/' ∉ name.toList) : names name = [name] := by
  have hsplit : name.toList.splitOnP (· == '/') = [name.toList] := by
    refine List.splitOnP_eq_singleton fun c hc => ?_
    rw [beq_eq_false_iff_ne]
    rintro rfl
    exact hplain hc
  rw [names_eq, hsplit, List.map_singleton, String.ofList_toList]
  simp [hne]

theorem names_append_slashes (front : String) {slashes : String}
    (h : ∀ c ∈ slashes.toList, c = '/') : names (front ++ slashes) = names front := by
  obtain ⟨chars, rfl⟩ : ∃ chars, slashes = String.ofList chars := ⟨_, String.ofList_toList.symm⟩
  rw [String.toList_ofList] at h
  induction chars generalizing front with
  | nil => exact congrArg names String.append_empty
  | cons c rest ih =>
    obtain ⟨rfl, hrest⟩ := List.forall_mem_cons.1 h
    have hsplit : front ++ String.ofList ('/' :: rest) = front ++ "/" ++ ("" ++ .ofList rest) :=
      String.toList_injective (by simp)
    rw [hsplit, names_append_slash, ih "" hrest]
    exact List.append_nil _

theorem names_of_slashes (h : ∀ c ∈ path.toList, c = '/') : names path = [] := by
  rw [← String.empty_append (s := path), names_append_slashes "" h]
  rfl

/-- Behind the last name of a path there are slashes only, and right before it, if anything, one. -/
def LastName (path name : String) : Prop :=
  name ≠ "" ∧ '/' ∉ name.toList ∧ ∃ front slashes : String, path = front ++ name ++ slashes ∧
    (front = "" ∨ ∃ rest, front = rest ++ "/") ∧ ∀ c ∈ slashes.toList, c = '/'

theorem LastName.getLast?_names (h : LastName path name) : (names path).getLast? = some name := by
  obtain ⟨hne, hplain, front, slashes, rfl, hfront, hslashes⟩ := h
  rw [names_append_slashes (front ++ name) hslashes]
  rcases hfront with rfl | ⟨rest, rfl⟩
  · rw [String.empty_append, names_of_plain hne hplain]
    rfl
  · rw [names_append_slash, names_of_plain hne hplain]
    exact List.getLast?_concat

/-- A path has a last name unless it is made of slashes. -/
theorem exists_lastName (h : ¬∀ c ∈ path.toList, c = '/') : ∃ name, LastName path name := by
  let kept := path.toList.rdropWhile (· == '/')
  have hkept : kept ≠ [] := by
    intro hnil
    exact h fun c hc => beq_iff_eq.1 (List.rdropWhile_eq_nil_iff.1 hnil c hc)
  have hlast : kept.getLast hkept ≠ '/' := fun heq =>
    List.rdropWhile_last_not (· == '/') path.toList hkept (beq_iff_eq.2 heq)
  refine ⟨.ofList (kept.rtakeWhile (· != '/')), ?_, ?_, .ofList (kept.rdropWhile (· != '/')),
    .ofList (path.toList.rtakeWhile (· == '/')), ?_, ?_, ?_⟩
  · rw [ne_eq, String.ofList_eq_empty_iff, List.rtakeWhile_eq_nil_iff]
    exact fun hnone => hnone hkept (bne_iff_ne.2 hlast)
  · rw [String.toList_ofList]
    intro hmem
    exact absurd (List.mem_rtakeWhile_imp hmem) (by decide)
  · apply String.toList_injective
    rw [String.toList_append, String.toList_append, String.toList_ofList, String.toList_ofList,
      String.toList_ofList, List.rdropWhile_append_rtakeWhile]
    exact (List.rdropWhile_append_rtakeWhile ..).symm
  · by_cases hfront : kept.rdropWhile (· != '/') = []
    · exact .inl (by rw [hfront])
    · have hslash : (kept.rdropWhile (· != '/')).getLast hfront = '/' := by
        simpa using List.rdropWhile_last_not (· != '/') kept hfront
      refine .inr ⟨.ofList (kept.rdropWhile (· != '/')).dropLast, String.toList_injective ?_⟩
      rw [String.toList_append, String.toList_ofList, String.toList_ofList]
      exact (hslash ▸ List.dropLast_append_getLast hfront).symm
  · rw [String.toList_ofList]
    intro c hc
    exact beq_iff_eq.1 (List.mem_rtakeWhile_imp (p := (· == '/')) hc)

variable {t : FileTree} {base dir place way : Path}

theorem walk_concat (h : t.walk dir way = some place) (hdir : t.isDir place = true)
    (hdot : name ≠ ".") (hdots : name ≠ "..") :
    t.walk dir (way ++ [name]) = some (place ++ [name]) := by
  induction way generalizing dir with
  | nil =>
    obtain rfl := Option.some.inj h
    simp [walk, hdir, hdot, hdots]
  | cons next rest ih =>
    rw [walk] at h
    rw [List.cons_append, walk]
    split_ifs at h ⊢
    · exact ih h
    · exact ih h
    · exact ih h

/-- A path leads to a place if its names do, and only to a directory if a slash comes last. -/
theorem locate?_eq_some_iff : t.locate? base path = some place ↔
    path ≠ "" ∧ (Text.startsWith path "/" = true → t.rooted = true) ∧
      t.walk (if Text.startsWith path "/" then [] else base) (names path) = some place ∧
      (path.toList.getLast? = some '/' → t.isDir place = true) := by
  unfold locate?
  by_cases hempty : path = ""
  · simp [hempty]
  by_cases hroot : Text.startsWith path "/" = true ∧ t.rooted = false
  · simp [hroot]
  have hgo : ¬(path.isEmpty || Text.startsWith path "/" && !t.rooted) = true := by
    simpa [hempty] using hroot
  simp only [if_neg hgo]
  cases t.walk (if Text.startsWith path "/" then [] else base) (names path) with
  | none => simp
  | some found =>
    simp only [Option.bind_eq_bind, Option.bind_some]
    grind

theorem startsWith_slash_append {front : String} (hne : front ≠ "") (back : String) :
    Text.startsWith (front ++ back) "/" = Text.startsWith front "/" := by
  rw [Text.startsWith, Text.startsWith, String.toList_append]
  cases hchars : front.toList with
  | nil => exact absurd (String.toList_eq_nil_iff.1 hchars) hne
  | cons c rest => rfl

theorem startsWith_slash_of_plain (hplain : '/' ∉ name.toList) :
    Text.startsWith name "/" = false := by
  rw [Text.startsWith, Bool.eq_false_iff, ne_eq, List.isPrefixOf_iff_prefix]
  exact fun hslash => hplain (hslash.subset (List.mem_singleton_self '/'))

/-- `path` leads to the entry `name` of the directory that `dir` leads to, wherever that is. -/
structure IsChild (dir name path : String) : Prop where
  names_eq : names path = names dir ++ [name]
  absolute_eq : Text.startsWith path "/" = Text.startsWith dir "/"
  located (t : FileTree) (base place : Path) (h : t.locate? base dir = some place)
    (hdir : t.isDir place = true) : t.locate? base path = some (place ++ [name])

theorem IsChild.of_names {dir name path : String} (hnames : names path = names dir ++ [name])
    (habsolute : Text.startsWith path "/" = Text.startsWith dir "/")
    (hend : path.toList.getLast? ≠ some '/') (hdot : name ≠ ".") (hdots : name ≠ "..") :
    IsChild dir name path where
  names_eq := hnames
  absolute_eq := habsolute
  located t base place h hdir := by
    have hne : path ≠ "" := by
      rintro rfl
      exact List.append_ne_nil_of_right_ne_nil _ (List.cons_ne_nil name []) hnames.symm
    obtain ⟨-, hrooted, hwalk, -⟩ := locate?_eq_some_iff.1 h
    refine locate?_eq_some_iff.2 ⟨hne, habsolute ▸ hrooted, ?_, fun hslash => absurd hslash hend⟩
    rw [habsolute, hnames]
    exact walk_concat hwalk hdir hdot hdots

end FileTree
end ClusterHealth
