import ClusterHealth.Proofs.Json.Writing

/-! Whatever is read as a document was written as one: readers take nothing else than the grammar
has. -/
namespace ClusterHealth.Json
open Decimal (isDigit)

section Scanning
variable {chars rest : List Char}

theorem exists_blank (chars : List Char) :
    ∃ space, Blank space ∧ chars = space ++ skipSpace chars :=
  ⟨chars.takeWhile isSpace, fun _ => List.mem_takeWhile_imp, List.takeWhile_append_dropWhile.symm⟩

theorem of_scanDigits {digits : List Char} (h : scanDigits chars = some (digits, rest)) :
    IsDigits digits ∧ chars = digits ++ rest := by
  unfold scanDigits at h
  split at h
  · cases h
  · rename_i hnonempty
    obtain ⟨rfl, rfl⟩ := Prod.mk.inj (Option.some.inj h)
    exact ⟨⟨hnonempty, fun _ => List.mem_takeWhile_imp⟩, List.takeWhile_append_dropWhile.symm⟩

theorem of_scanWhole {whole : List Char} (h : scanWhole chars = some (whole, rest)) :
    IsDigits whole ∧ (whole.head? = some '0' → whole = ['0']) ∧ chars = whole ++ rest := by
  unfold scanWhole at h
  obtain ⟨⟨digits, left⟩, hscan, hwhole⟩ := Option.bind_eq_some_iff.1 h
  dsimp only at hwhole
  split at hwhole
  · cases hwhole
  · rename_i hzero
    obtain ⟨rfl, rfl⟩ := Prod.mk.inj (Option.some.inj hwhole)
    obtain ⟨hdigits, hchars⟩ := of_scanDigits hscan
    exact ⟨hdigits, fun hhead => not_not.1 fun hne => hzero ⟨hhead, hne⟩, hchars⟩

theorem of_scanPlaces {places : List Char} (h : scanPlaces chars = some (places, rest)) :
    IsPlaces places ∧ chars = places ++ rest := by
  unfold scanPlaces at h
  split at h
  · obtain ⟨⟨digits, left⟩, hscan, hplaces⟩ := Option.map_eq_some_iff.1 h
    obtain ⟨rfl, rfl⟩ := Prod.mk.inj hplaces
    obtain ⟨hdigits, rfl⟩ := of_scanDigits hscan
    exact ⟨.some hdigits, rfl⟩
  · obtain ⟨rfl, rfl⟩ := Prod.mk.inj (Option.some.inj h)
    exact ⟨.none, rfl⟩

theorem of_scanPower {power : List Char} (h : scanPower chars = some (power, rest)) :
    IsPower power ∧ chars = power ++ rest := by
  unfold scanPower at h
  split at h
  · split at h
    · rename_i hmark
      rw [Bool.or_eq_true, beq_iff_eq, beq_iff_eq] at hmark
      split at h
      · obtain ⟨⟨digits, left⟩, hscan, hpower⟩ := Option.map_eq_some_iff.1 h
        obtain ⟨rfl, rfl⟩ := Prod.mk.inj hpower
        obtain ⟨hdigits, rfl⟩ := of_scanDigits hscan
        exact ⟨.signed hmark (.inl rfl) hdigits, rfl⟩
      · obtain ⟨⟨digits, left⟩, hscan, hpower⟩ := Option.map_eq_some_iff.1 h
        obtain ⟨rfl, rfl⟩ := Prod.mk.inj hpower
        obtain ⟨hdigits, rfl⟩ := of_scanDigits hscan
        exact ⟨.signed hmark (.inr rfl) hdigits, rfl⟩
      · obtain ⟨⟨digits, left⟩, hscan, hpower⟩ := Option.map_eq_some_iff.1 h
        obtain ⟨rfl, rfl⟩ := Prod.mk.inj hpower
        obtain ⟨hdigits, rfl⟩ := of_scanDigits hscan
        exact ⟨.unsigned hmark hdigits, rfl⟩
    · obtain ⟨rfl, rfl⟩ := Prod.mk.inj (Option.some.inj h)
      exact ⟨.none, rfl⟩
  · obtain ⟨rfl, rfl⟩ := Prod.mk.inj (Option.some.inj h)
    exact ⟨.none, rfl⟩

theorem of_scanUnsigned {literal : List Char} (h : scanUnsigned chars = some (literal, rest)) :
    IsNumber literal ∧ IsNumber ('-' :: literal) ∧ chars = literal ++ rest := by
  unfold scanUnsigned at h
  obtain ⟨⟨whole, afterWhole⟩, hscanWhole, h⟩ := Option.bind_eq_some_iff.1 h
  obtain ⟨⟨places, afterPlaces⟩, hscanPlaces, h⟩ := Option.bind_eq_some_iff.1 h
  obtain ⟨⟨power, afterPower⟩, hscanPower, h⟩ := Option.bind_eq_some_iff.1 h
  obtain ⟨rfl, rfl⟩ := Prod.mk.inj (Option.some.inj h)
  obtain ⟨hwhole, hzero, rfl⟩ := of_scanWhole hscanWhole
  obtain ⟨hplaces, rfl⟩ := of_scanPlaces hscanPlaces
  obtain ⟨hpower, rfl⟩ := of_scanPower hscanPower
  rw [List.append_assoc whole]
  refine ⟨?_, ?_, by simp only [List.append_assoc]⟩
  · exact .mk List.mem_cons_self hwhole hzero hplaces hpower
  · exact .mk (List.mem_cons_of_mem _ List.mem_cons_self) hwhole hzero hplaces hpower

theorem of_scanNumber {literal : List Char} (h : scanNumber chars = some (literal, rest)) :
    IsNumber literal ∧ chars = literal ++ rest := by
  unfold scanNumber at h
  split at h
  · obtain ⟨⟨unsigned, left⟩, hscan, hliteral⟩ := Option.map_eq_some_iff.1 h
    obtain ⟨rfl, rfl⟩ := Prod.mk.inj hliteral
    obtain ⟨-, hnumber, rfl⟩ := of_scanUnsigned hscan
    exact ⟨hnumber, rfl⟩
  · obtain ⟨hnumber, -, hchars⟩ := of_scanUnsigned h
    exact ⟨hnumber, hchars⟩

theorem of_scanString {body : List Char} (h : scanString chars = some (body, rest)) :
    IsBody body ∧ chars = body ++ '"' :: rest := by
  induction chars using scanString.induct generalizing body with
  | case1 => cases h
  | case2 left =>
    obtain ⟨rfl, rfl⟩ := Prod.mk.inj (Option.some.inj h)
    exact ⟨.nil, rfl⟩
  | case3 a b c d left hhex ih =>
    rw [scanString_unit, if_pos hhex] at h
    obtain ⟨⟨others, left⟩, hscan, hbody⟩ := Option.map_eq_some_iff.1 h
    obtain ⟨rfl, rfl⟩ := Prod.mk.inj hbody
    obtain ⟨hothers, rfl⟩ := ih hscan
    exact ⟨.unit (by simpa [and_assoc] using hhex) hothers, rfl⟩
  | case4 a b c d left hhex =>
    rw [scanString_unit, if_neg hhex] at h
    cases h
  | case5 c left hunit hescape ih =>
    rw [scanString_escape hescape] at h
    obtain ⟨⟨others, left⟩, hscan, hbody⟩ := Option.map_eq_some_iff.1 h
    obtain ⟨rfl, rfl⟩ := Prod.mk.inj hbody
    obtain ⟨hothers, rfl⟩ := ih hscan
    exact ⟨.escape hescape hothers, rfl⟩
  | case6 c left hunit hescape =>
    rw [scanString_backslash hunit, if_neg hescape] at h
    cases h
  | case7 c left hquote hunit hescape hrejected =>
    rw [scanString_cons hquote hescape, if_pos hrejected] at h
    cases h
  | case8 c left hquote hunit hescape hallowed ih =>
    rw [Bool.or_eq_true, beq_iff_eq, decide_eq_true_eq, not_or, Nat.not_lt] at hallowed
    rw [scanString_plain hquote hallowed.1 hallowed.2] at h
    obtain ⟨⟨others, left⟩, hscan, hbody⟩ := Option.map_eq_some_iff.1 h
    obtain ⟨rfl, rfl⟩ := Prod.mk.inj hbody
    obtain ⟨hothers, rfl⟩ := ih hscan
    exact ⟨.plain hquote hallowed.1 hallowed.2 hothers, rfl⟩

end Scanning

/-- Readers of all parts with some fuel take what is written. -/
structure Sound (fuel : Nat) : Prop where
  value : ∀ {chars doc rest}, readValue fuel chars = some (doc, rest) →
    ∃ before, chars = before ++ rest ∧ Written (.value doc) before
  items : ∀ {chars items rest}, readItems fuel chars = some (items, rest) →
    ∃ before, chars = before ++ ']' :: rest ∧ Written (.items items) before
  members : ∀ {chars members rest}, readMembers fuel chars = some (members, rest) →
    ∃ before, chars = before ++ '\x7d' :: rest ∧ Written (.members members) before

theorem Sound.readValue {fuel : Nat} (hsound : Sound fuel) {chars rest : List Char} {doc : Document}
    (h : readValue (fuel + 1) chars = some (doc, rest)) :
    ∃ before, chars = before ++ rest ∧ Written (.value doc) before := by
  obtain ⟨space, hspace, hchars⟩ := exists_blank chars
  rw [Json.readValue] at h
  suffices hread : ∃ before, skipSpace chars = before ++ rest ∧ Written (.value doc) before by
    obtain ⟨before, hskip, hwritten⟩ := hread
    refine ⟨space ++ (before ++ []), ?_, .spaced hspace hwritten (List.forall_mem_nil _)⟩
    rw [hchars, hskip, List.append_nil, List.append_assoc]
  split at h
  · rename_i heq
    obtain ⟨rfl, rfl⟩ := Prod.mk.inj (Option.some.inj h)
    exact ⟨_, heq, .null⟩
  · rename_i heq
    obtain ⟨rfl, rfl⟩ := Prod.mk.inj (Option.some.inj h)
    exact ⟨_, heq, .true⟩
  · rename_i heq
    obtain ⟨rfl, rfl⟩ := Prod.mk.inj (Option.some.inj h)
    exact ⟨_, heq, .false⟩
  · rename_i heq
    obtain ⟨⟨body, left⟩, hscan, hdoc⟩ := Option.map_eq_some_iff.1 h
    obtain ⟨rfl, rfl⟩ := Prod.mk.inj hdoc
    obtain ⟨hbody, rfl⟩ := of_scanString hscan
    refine ⟨_, ?_, .string hbody⟩
    rw [heq, List.cons_append, List.append_assoc]
    rfl
  · rename_i inner heq
    rw [heq]
    obtain ⟨space, hspace, hinner⟩ := exists_blank inner
    split at h
    · rename_i hskip
      obtain ⟨rfl, rfl⟩ := Prod.mk.inj (Option.some.inj h)
      refine ⟨_, ?_, .emptyArray hspace⟩
      rw [hinner, hskip, List.cons_append, List.append_assoc]
      rfl
    · rw [readItems_congr (skipSpace_skipSpace inner)] at h
      obtain ⟨⟨items, left⟩, hread, hdoc⟩ := Option.map_eq_some_iff.1 h
      obtain ⟨rfl, rfl⟩ := Prod.mk.inj hdoc
      obtain ⟨before, rfl, hwritten⟩ := hsound.items hread
      refine ⟨_, ?_, .array hwritten⟩
      rw [List.cons_append, List.append_assoc]
      rfl
  · rename_i inner heq
    rw [heq]
    obtain ⟨space, hspace, hinner⟩ := exists_blank inner
    split at h
    · rename_i hskip
      obtain ⟨rfl, rfl⟩ := Prod.mk.inj (Option.some.inj h)
      refine ⟨_, ?_, .emptyObject hspace⟩
      rw [hinner, hskip, List.cons_append, List.append_assoc]
      rfl
    · rw [readMembers_congr (skipSpace_skipSpace inner)] at h
      obtain ⟨⟨members, left⟩, hread, hdoc⟩ := Option.map_eq_some_iff.1 h
      obtain ⟨rfl, rfl⟩ := Prod.mk.inj hdoc
      obtain ⟨before, rfl, hwritten⟩ := hsound.members hread
      refine ⟨_, ?_, .object hwritten⟩
      rw [List.cons_append, List.append_assoc]
      rfl
  · obtain ⟨⟨literal, left⟩, hscan, hdoc⟩ := Option.map_eq_some_iff.1 h
    obtain ⟨rfl, rfl⟩ := Prod.mk.inj hdoc
    obtain ⟨hliteral, hskip⟩ := of_scanNumber hscan
    exact ⟨literal, hskip, .number hliteral⟩

/-- The space behind a value belongs to it. -/
theorem Written.behind {doc : Document} {before : List Char} (h : Written (.value doc) before)
    (rest : List Char) :
    ∃ more, Written (.value doc) more ∧ before ++ rest = more ++ skipSpace rest := by
  obtain ⟨space, hspace, hrest⟩ := exists_blank rest
  refine ⟨[] ++ (before ++ space), .spaced (List.forall_mem_nil _) h hspace, ?_⟩
  rw [List.nil_append, List.append_assoc, ← hrest]

theorem Sound.readItems {fuel : Nat} (hsound : Sound fuel) {chars rest : List Char}
    {items : List Document} (h : readItems (fuel + 1) chars = some (items, rest)) :
    ∃ before, chars = before ++ ']' :: rest ∧ Written (.items items) before := by
  rw [Json.readItems] at h
  obtain ⟨⟨item, left⟩, hread, hfurther⟩ := Option.bind_eq_some_iff.1 h
  obtain ⟨before, hchars, hitem⟩ := hsound.value hread
  obtain ⟨more, hmore, hbehind⟩ := hitem.behind left
  rw [hchars, hbehind]
  dsimp only at hfurther
  split at hfurther
  · rename_i hend
    obtain ⟨rfl, rfl⟩ := Prod.mk.inj (Option.some.inj hfurther)
    exact ⟨more, by rw [hend], .lastItem hmore⟩
  · rename_i hcomma
    obtain ⟨⟨others, last⟩, hrest, hitems⟩ := Option.map_eq_some_iff.1 hfurther
    obtain ⟨rfl, rfl⟩ := Prod.mk.inj hitems
    obtain ⟨behind, rfl, hothers⟩ := hsound.items hrest
    refine ⟨_, ?_, .item hmore hothers⟩
    rw [hcomma, List.append_assoc]
    rfl
  · cases hfurther

theorem Sound.readMembers {fuel : Nat} (hsound : Sound fuel) {chars rest : List Char}
    {members : List (List Char × Document)}
    (h : readMembers (fuel + 1) chars = some (members, rest)) :
    ∃ before, chars = before ++ '\x7d' :: rest ∧ Written (.members members) before := by
  obtain ⟨space, hspace, hchars⟩ := exists_blank chars
  rw [Json.readMembers] at h
  split at h
  · rename_i inner hquote
    obtain ⟨⟨key, afterKey⟩, hscan, hbehindKey⟩ := Option.bind_eq_some_iff.1 h
    obtain ⟨hkey, hinner⟩ := of_scanString hscan
    obtain ⟨after, hafter, hafterKey⟩ := exists_blank afterKey
    have hlabel : WrittenKey key (space ++ '"' :: (key ++ '"' :: after)) :=
      ⟨space, after, hspace, hkey, hafter, rfl⟩
    dsimp only at hbehindKey
    split at hbehindKey
    · rename_i hcolon
      obtain ⟨⟨item, left⟩, hread, hfurther⟩ := Option.bind_eq_some_iff.1 hbehindKey
      obtain ⟨before, hvalue, hitem⟩ := hsound.value hread
      obtain ⟨more, hmore, hbehind⟩ := hitem.behind left
      have hwhole : chars =
          space ++ '"' :: (key ++ '"' :: after) ++ ':' :: (more ++ skipSpace left) := by
        rw [hchars, hquote, hinner, hafterKey, hcolon, hvalue, hbehind]
        simp only [List.append_assoc, List.cons_append]
      rw [hwhole]
      dsimp only at hfurther
      split at hfurther
      · rename_i hend
        obtain ⟨rfl, rfl⟩ := Prod.mk.inj (Option.some.inj hfurther)
        refine ⟨_, ?_, .lastMember hlabel hmore⟩
        rw [hend]
        simp only [List.append_assoc, List.cons_append]
      · rename_i hcomma
        obtain ⟨⟨others, last⟩, hrest, hmembers⟩ := Option.map_eq_some_iff.1 hfurther
        obtain ⟨rfl, rfl⟩ := Prod.mk.inj hmembers
        obtain ⟨behind, rfl, hothers⟩ := hsound.members hrest
        refine ⟨_, ?_, .member hlabel hmore hothers⟩
        rw [hcomma]
        simp only [List.append_assoc, List.cons_append]
      · cases hfurther
    · cases hbehindKey
  · cases h

theorem sound (fuel : Nat) : Sound fuel := by
  induction fuel with
  | zero => exact ⟨nofun, nofun, nofun⟩
  | succ fuel ih => exact ⟨ih.readValue, ih.readItems, ih.readMembers⟩

/-- Reading a document undoes writing it, and nothing else can be read. -/
theorem parse?_eq_some_iff {doc : Document} {text : String} :
    Document.parse? text = some doc ↔ Written (.value doc) text.toList := by
  refine ⟨fun h => ?_, parse?_of_written⟩
  unfold Document.parse? at h
  obtain ⟨⟨read, left⟩, hread, hdone⟩ := Option.bind_eq_some_iff.1 h
  dsimp only at hdone
  split at hdone
  · rename_i hend
    obtain ⟨before, hbefore, hwritten⟩ := (sound _).value hread
    obtain ⟨more, hmore, hbehind⟩ := hwritten.behind left
    rw [List.isEmpty_iff.1 hend, List.append_nil] at hbehind
    rwa [hbefore, hbehind, ← Option.some.inj hdone]
  · cases hdone

end ClusterHealth.Json
