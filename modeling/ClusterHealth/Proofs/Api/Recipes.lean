import ClusterHealth.Checks.Api
import ClusterHealth.Proofs.Course
import ClusterHealth.Rehearsal.Attempts

/-!
When the expected recipe counts as present among the recipes of the image service. A second record
of it is more than a warning if it has no link: every record of the recipe needs one.
-/
namespace ClusterHealth.Checks.Api
open Procedure

/-- A record with the name and the distribution of a recipe. -/
def IsRecordOf (expected : Recipe) (record : Json) : Prop :=
  record.field? "name" = some (.string expected.name) ∧
    record.field? "linux_distribution" = some (.string expected.distro)

/-- There is a link, and it is not null. -/
def Linked (record : Json) : Prop := ∃ link, record.field? "link" = some link ∧ link ≠ .null

theorem textField?_eq_some {key text : String} {record : Json} :
    textField? key record = some text ↔ record.field? key = some (.string text) := by
  simp [textField?, Option.bind_eq_some_iff, Json.string?_eq_some]

theorem hasLink_iff {record : Json} : hasLink record = true ↔ Linked record := by
  unfold hasLink Linked
  cases record.field? "link" with
  | none => simp
  | some link => cases link <;> simp [Option.filter, Json.isNull]

/-- What a scan of records comes to: one of them, or one before them, has the distribution, and all
of them that have it are linked. -/
def Scanned (expected : Recipe) (found : Option String) (records : List Json)
    (result : Option String × Bool) : Prop :=
  (result.1.isSome = true ↔ found.isSome = true ∨
    ∃ record ∈ records, textField? "linux_distribution" record = some expected.distro) ∧
  (result.2 = true ↔
    ∀ record ∈ records, textField? "linux_distribution" record = some expected.distro →
      Linked record)

variable {expected : Recipe} {record : Json} {rest : List Json} {found : Option String}
  {result : Option String × Bool}

theorem Scanned.taken {id' : String} {linked : Bool}
    (hdistro : textField? "linux_distribution" record = some expected.distro)
    (hlinked : linked = true ↔ Linked record) (h : Scanned expected (some id') rest result) :
    Scanned expected found (record :: rest) (result.1, linked && result.2) := by
  obtain ⟨hfound, hall⟩ := h
  constructor
  · have hlast : result.1.isSome = true := hfound.2 (.inl rfl)
    exact iff_of_true hlast (.inr ⟨record, List.mem_cons_self, hdistro⟩)
  · rw [List.forall_mem_cons, Bool.and_eq_true, hlinked, hall]
    exact and_congr_left fun _ => ⟨fun hlink _ => hlink, fun himp => himp hdistro⟩

theorem Scanned.skipped
    (hdistro : textField? "linux_distribution" record ≠ some expected.distro)
    (h : Scanned expected found rest result) : Scanned expected found (record :: rest) result := by
  obtain ⟨hfound, hall⟩ := h
  constructor
  · simp only [hfound, List.mem_cons, exists_eq_or_imp, hdistro, false_or]
  · rw [hall, List.forall_mem_cons]
    exact ⟨fun hrest => ⟨fun heq => absurd heq hdistro, hrest⟩, And.right⟩

theorem recipeRecords_always (expected : Recipe) (found : Option String) (records : List Json) :
    (recipeRecords expected found records).Always fun _ => Scanned expected found records := by
  induction records generalizing found with
  | nil => simp [recipeRecords, always_pure, Scanned]
  | cons record rest ih =>
    unfold recipeRecords
    dsimp only
    split
    · rename_i hdistro
      -- Whatever is logged about the record, its link decides together with the rest.
      have htail (linked : Bool) (hlinked : linked = true ↔ Linked record) :
          (recipeRecords expected (some ((textField? "id" record).getD "")) rest >>= fun last =>
            pure (last.1, linked && last.2)).Always
              fun _ => Scanned expected found (record :: rest) :=
        Always.bind ((ih _).mono fun _ _ hrest => hrest.taken hdistro hlinked)
      have hpresent (h : hasLink record = true) := htail true (iff_of_true rfl (hasLink_iff.1 h))
      have habsent (h : ¬hasLink record = true) :=
        htail false (iff_of_false Bool.false_ne_true (mt hasLink_iff.2 h))
      cases found with
      | none =>
        dsimp only
        split
        · exact hpresent ‹_›
        · exact habsent ‹_›
      | some first =>
        refine always_logged_bind.2 ?_
        split
        · exact hpresent ‹_›
        · exact habsent ‹_›
    · rename_i hdistro
      refine always_logged_bind.2 ((ih found).mono fun _ _ hrest => ?_)
      exact hrest.skipped hdistro

/-- What decides: there is a record of the recipe, and all of them are linked. -/
theorem recipePresent_always (expected : Recipe) (records : List Json) :
    (recipePresent expected records).Always fun _ present =>
      present = true ↔ (∃ record ∈ records, IsRecordOf expected record) ∧
        ∀ record ∈ records, IsRecordOf expected record → Linked record := by
  have hrecord (record : Json) : IsRecordOf expected record ↔
      textField? "name" record = some expected.name ∧
        textField? "linux_distribution" record = some expected.distro := by
    rw [textField?_eq_some, textField?_eq_some, IsRecordOf]
  refine Always.bind ((recipeRecords_always ..).mono fun _ (last, linked) hscanned => ?_)
  obtain ⟨hfound, hall⟩ := hscanned
  simp only [List.mem_filter, decide_eq_true_eq, and_assoc, ← hrecord, Option.isSome_none,
    Bool.false_eq_true, false_or] at hfound
  simp only [List.mem_filter, decide_eq_true_eq, and_imp] at hall
  have hlinked : linked = true ↔
      ∀ record ∈ records, IsRecordOf expected record → Linked record := by
    simp only [hrecord, and_imp]
    exact hall
  cases last with
  | none =>
    have hnone : ¬∃ record ∈ records, IsRecordOf expected record :=
      mt hfound.2 Bool.false_ne_true
    exact iff_of_false Bool.false_ne_true fun h => hnone h.1
  | some id' =>
    have hsome : ∃ record ∈ records, IsRecordOf expected record := hfound.1 rfl
    rw [always_pure, hlinked]
    exact (and_iff_right hsome).symm

/-- The recipe is present if there is a record of it and every record of it is linked, in whatever
order. Of further records only those of the recipe matter, and only if they are not linked. -/
theorem recipePresent_verdict (expected : Recipe) (answer : (r : Request) → σ → Reply r × σ)
    (state : σ) :
    let present (records : List Json) := ((recipePresent expected records).run answer state).value
    (∀ records, present records = true ↔
      (∃ record ∈ records, IsRecordOf expected record) ∧
        ∀ record ∈ records, IsRecordOf expected record → Linked record) ∧
    (∀ records reordered, records.Perm reordered → present records = present reordered) ∧
    ∀ records further, present records = true →
      (present (records ++ further) = true ↔
        ∀ record ∈ further, IsRecordOf expected record → Linked record) := by
  intro present
  have hpresent (records : List Json) := (recipePresent_always expected records).run answer state
  refine ⟨hpresent, fun records reordered hperm => ?_, fun records further h => ?_⟩
  · have hmem (record : Json) : record ∈ records ↔ record ∈ reordered := hperm.mem_iff
    rw [Bool.eq_iff_iff]
    apply (hpresent records).trans
    apply Iff.trans _ (hpresent reordered).symm
    simp only [hmem]
  · obtain ⟨⟨record, hrecord, hof⟩, hall⟩ := (hpresent records).1 h
    have hsome : ∃ record ∈ records ++ further, IsRecordOf expected record :=
      ⟨record, List.mem_append_left _ hrecord, hof⟩
    apply (hpresent (records ++ further)).trans
    rw [and_iff_right hsome, List.forall_mem_append, and_iff_right hall]

/-- A record as far as the scan reads it. -/
def sampleRecord (distro : String) (link : Json) : Json :=
  .object [("linux_distribution", .string distro), ("link", link), ("name", .string "barebones")]

theorem recipePresent_verdict_among_others :
    let answer (r : Request) (state : Unit) : Reply r × Unit := (Rehearsal.refusal r, state)
    let present (records : List Json) :=
      ((recipePresent ⟨"barebones", "sles15"⟩ records).run answer ()).value
    let linked := sampleRecord "sles15" (.object [])
    let others := [sampleRecord "centos" .null, linked]
    present [linked] = true ∧ ([linked] ++ others).Perm (others ++ [linked]) ∧
      present (others ++ [linked]) = true := by
  intro answer present linked others
  obtain ⟨hpresent, hperm, hfurther⟩ := recipePresent_verdict ⟨"barebones", "sles15"⟩ answer ()
  have hof : IsRecordOf ⟨"barebones", "sles15"⟩ linked := ⟨rfl, rfl⟩
  have hlinked : Linked linked := ⟨.object [], rfl, Json.noConfusion⟩
  have hother : ¬IsRecordOf ⟨"barebones", "sles15"⟩ (sampleRecord "centos" .null) :=
    fun h => absurd h.2 (by simp [sampleRecord, Json.field?])
  have hone : present [linked] = true := by
    apply (hpresent [linked]).2
    simp [hof, hlinked]
  have hall : present ([linked] ++ others) = true := by
    apply (hfurther [linked] others hone).2
    simp [others, hother, hlinked]
  have hswap : ([linked] ++ others).Perm (others ++ [linked]) := List.perm_append_comm
  exact ⟨hone, hswap, (hperm _ _ hswap).symm.trans hall⟩

/-- A linked record of the recipe is not enough. -/
theorem exists_linked_recipe_refused :
    ¬∀ (σ : Type) (answer : (r : Request) → σ → Reply r × σ) (state : σ) (expected : Recipe)
      (records : List Json),
        ((recipePresent expected records).run answer state).value = true ↔
          ∃ record ∈ records, IsRecordOf expected record ∧ Linked record := by
  intro h
  let answer (r : Request) (state : Unit) : Reply r × Unit := (Rehearsal.refusal r, state)
  let linked := sampleRecord "sles15" (.object [])
  let unlinked := sampleRecord "sles15" .null
  have hlinked : Linked linked := ⟨.object [], rfl, Json.noConfusion⟩
  have hpresent := (h Unit answer () ⟨"barebones", "sles15"⟩ [linked, unlinked]).2
    ⟨linked, List.mem_cons_self, ⟨rfl, rfl⟩, hlinked⟩
  have hdecides := (recipePresent_always ⟨"barebones", "sles15"⟩ [linked, unlinked]).run answer ()
  have hsecond : Linked unlinked := (hdecides.1 hpresent).2 unlinked (by simp) ⟨rfl, rfl⟩
  obtain ⟨link, hlink, hnull⟩ := hsecond
  exact hnull (Option.some.inj hlink).symm

end ClusterHealth.Checks.Api
