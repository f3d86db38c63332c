import ClusterHealth.Text.Pattern

/-!
Patterns read from texts. An escaped text is read as its characters one by one, so that a pattern
around it matches nothing but that text in its place.
-/
namespace ClusterHealth.Text.Pattern

/-! Reading. -/

/-- What stands for one character. -/
def single (c : Char) : Item := .run [(c, c)] 1

variable {chars rest text : List Char} {item : Item} {items : Pattern} {inside : Bool}

/-- The items that `chars` spell, however much fuel there is. -/
def Spells (chars : List Char) (items : Pattern) : Prop :=
  ∀ fuel, items.length ≤ fuel → readItems fuel chars = some items

theorem Spells.nil : Spells [] [] := fun fuel _ => by cases fuel with | _ => rfl

theorem Spells.cons (hitem : readItem chars = some (item, rest)) (hrest : Spells rest items) :
    Spells chars (item :: items) := by
  intro fuel hfuel
  obtain ⟨fuel, rfl⟩ : ∃ m, fuel = m + 1 := ⟨fuel - 1, by simp at hfuel; omega⟩
  cases chars with
  | nil => cases hitem
  | cons c chars =>
    have hread := hrest fuel (by simpa using hfuel)
    simp [readItems, hitem, hread]

theorem parse?_of_spells {text : String} (h : Spells text.toList items)
    (hlength : items.length ≤ text.toList.length) : parse? text = some items :=
  h _ hlength

/-- A character that is no mark stands for itself. -/
theorem readSet_of_not_mark {c : Char} (h : isMark c = false) :
    readSet (c :: rest) = some ([(c, c)], rest) := by
  have hset : c ≠ '[' := by rintro rfl; cases h
  have hescape : c ≠ '\\' := by rintro rfl; cases h
  unfold readSet
  split
  · rename_i heq
    exact absurd (List.cons.inj heq).1 hset
  · rename_i heq
    exact absurd (List.cons.inj heq).1 hescape
  · rename_i heq
    obtain ⟨rfl, rfl⟩ := List.cons.inj heq
    simp [h]
  · rename_i heq
    cases heq

theorem readSet_escapeChar (c : Char) : readSet (escapeChar c ++ rest) = some ([(c, c)], rest) := by
  unfold escapeChar
  split
  · rename_i h
    simp [readSet, h]
  · rename_i h
    exact readSet_of_not_mark (by simpa using h)

theorem readCount_of_head (h : rest.head? ≠ some '\x7b') : readCount rest = some (1, rest) := by
  unfold readCount
  split
  · exact absurd rfl h
  · rfl

/-- An escaped character is read as that character, unless a count follows. -/
theorem readItem_escapeChar (c : Char) (h : rest.head? ≠ some '\x7b') :
    readItem (escapeChar c ++ rest) = some (single c, rest) := by
  have hset : readSet (escapeChar c ++ rest) = some ([(c, c)], rest) := readSet_escapeChar c
  have hcount := readCount_of_head h
  unfold readItem
  split
  · rename_i heq
    rw [heq] at hset
    cases hset
  · rename_i heq
    rw [heq] at hset
    cases hset
  · simp [hset, hcount, single]

theorem head?_escapeChar (c : Char) : (escapeChar c ++ rest).head? ≠ some '\x7b' := by
  unfold escapeChar
  split
  · simp
  · rename_i h
    rintro ⟨⟩
    exact h rfl

/-- Escaped characters are read one by one, whatever follows, unless it is a count. -/
theorem Spells.escape (h : rest.head? ≠ some '\x7b') (hrest : Spells rest items) :
    Spells (chars.flatMap escapeChar ++ rest) (chars.map single ++ items) := by
  induction chars with
  | nil => exact hrest
  | cons c chars ih =>
    rw [List.flatMap_cons, List.append_assoc]
    refine Spells.cons (readItem_escapeChar c ?_) ih
    cases chars with
    | nil => exact h
    | cons next chars =>
      rw [List.flatMap_cons, List.append_assoc]
      exact head?_escapeChar next

theorem length_le_flatMap_escapeChar (chars : List Char) :
    chars.length ≤ (chars.flatMap escapeChar).length := by
  induction chars with
  | nil => simp
  | cons c chars ih =>
    have hone : 1 ≤ (escapeChar c).length := by
      unfold escapeChar
      split <;> simp
    rw [List.flatMap_cons, List.length_append, List.length_cons]
    omega

/-! Matching. -/

@[simp] theorem inSet_single (c d : Char) : inSet [(c, c)] d = (d == c) := by
  simp only [inSet, List.any_cons, List.any_nil, Bool.or_false]
  rw [Bool.eq_iff_iff]
  simp only [Bool.and_eq_true, decide_eq_true_eq, beq_iff_eq]
  constructor
  · rintro ⟨hlow, hhigh⟩
    exact Char.le_antisymm hhigh hlow
  · rintro rfl
    exact ⟨Char.le_refl d, Char.le_refl d⟩

theorem matchesHere_run {ranges : List (Char × Char)} {count : Nat} :
    matchesHere inside (.run ranges count :: items) text ↔
      ∃ taken rest, text = taken ++ rest ∧ taken.length = count ∧
        (∀ c ∈ taken, inSet ranges c) ∧ matchesHere (inside || count != 0) items rest := by
  simp only [matchesHere, Bool.and_eq_true, beq_iff_eq, List.all_eq_true]
  constructor
  · rintro ⟨⟨hlength, hset⟩, hrest⟩
    exact ⟨text.take count, text.drop count, (List.take_append_drop ..).symm, hlength, hset, hrest⟩
  · rintro ⟨taken, rest, rfl, rfl, hset, hrest⟩
    rw [List.take_left, List.drop_left]
    exact ⟨⟨rfl, hset⟩, hrest⟩

theorem matchesHere_single {c : Char} :
    matchesHere inside (single c :: items) text ↔
      ∃ rest, text = c :: rest ∧ matchesHere true items rest := by
  rw [single, matchesHere_run]
  constructor
  · rintro ⟨taken, rest, rfl, hlength, hset, hrest⟩
    obtain ⟨d, rfl⟩ := List.length_eq_one_iff.1 hlength
    obtain rfl : d = c := by simpa using hset
    exact ⟨rest, rfl, by simpa using hrest⟩
  · rintro ⟨rest, rfl, hrest⟩
    exact ⟨[c], rest, rfl, rfl, by simp, by simpa using hrest⟩

/-- Single characters match themselves and nothing else. -/
theorem matchesHere_singles :
    matchesHere true (chars.map single ++ items) text ↔
      ∃ rest, text = chars ++ rest ∧ matchesHere true items rest := by
  induction chars generalizing text with
  | nil => simp
  | cons c chars ih =>
    rw [List.map_cons, List.cons_append, matchesHere_single]
    constructor
    · rintro ⟨rest, rfl, hrest⟩
      obtain ⟨rest, rfl, hitems⟩ := ih.1 hrest
      exact ⟨rest, rfl, hitems⟩
    · rintro ⟨rest, rfl, hitems⟩
      exact ⟨chars ++ rest, rfl, ih.2 ⟨rest, rfl, hitems⟩⟩

theorem matchesHere_stop : matchesHere inside [.stop] text ↔ text = [] := by
  simp [matchesHere]

theorem occurs_start_of_inside : occurs (.start :: items) true text = false := by
  induction text with
  | nil => rfl
  | cons c text ih => rw [occurs, ih]; rfl

/-- A pattern that begins with the beginning of the text matches there or nowhere. -/
theorem occursIn_start (text : String) :
    occursIn (.start :: items) text = matchesHere false items text.toList := by
  unfold occursIn
  cases text.toList with
  | nil => rfl
  | cons c rest =>
    rw [occurs, occurs_start_of_inside, Bool.or_false]
    rfl

end ClusterHealth.Text.Pattern
