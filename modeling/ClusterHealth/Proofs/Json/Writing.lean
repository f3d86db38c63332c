import ClusterHealth.Json.Value
import ClusterHealth.Proofs.SocketAddress
import Mathlib.Data.List.DropRight

/-! How documents are written: numbers without leading zeros, texts with what has to be escaped,
space between any two parts. Whatever is written so is read back. -/
namespace ClusterHealth.Json
open Decimal (isDigit)
open SocketAddress (Stops takeWhile_append_of_stops dropWhile_append_of_stops)

/-- Space, or nothing. -/
def Blank (chars : List Char) : Prop := ∀ c ∈ chars, isSpace c = true

/-- Any characters but quotes, backslashes and controls, and whatever a backslash may stand in
front of. -/
inductive IsBody : List Char → Prop
  | nil : IsBody []
  | plain {c : Char} {rest : List Char} (hquote : c ≠ '"') (hbackslash : c ≠ '\\')
      (hvisible : 0x20 ≤ c.toNat) (h : IsBody rest) : IsBody (c :: rest)
  | escape {c : Char} {rest : List Char} (hescape : isEscape c = true) (h : IsBody rest) :
      IsBody ('\\' :: c :: rest)
  | unit {a b c d : Char} {rest : List Char} (hhex : ∀ x ∈ [a, b, c, d], isHex x = true)
      (h : IsBody rest) : IsBody ('\\' :: 'u' :: a :: b :: c :: d :: rest)

structure IsDigits (chars : List Char) : Prop where
  nonempty : chars ≠ []
  digits : ∀ c ∈ chars, isDigit c = true

inductive IsPlaces : List Char → Prop
  | none : IsPlaces []
  | some {digits : List Char} (h : IsDigits digits) : IsPlaces ('.' :: digits)

inductive IsPower : List Char → Prop
  | none : IsPower []
  | unsigned {mark : Char} {digits : List Char} (hmark : mark = 'e' ∨ mark = 'E')
      (h : IsDigits digits) : IsPower (mark :: digits)
  | signed {mark sign : Char} {digits : List Char} (hmark : mark = 'e' ∨ mark = 'E')
      (hsign : sign = '+' ∨ sign = '-') (h : IsDigits digits) : IsPower (mark :: sign :: digits)

/-- A whole part without leading zeros, decimal places and a power of ten. -/
inductive IsNumber : List Char → Prop
  | mk {sign whole places power : List Char} (hsign : sign ∈ [[], ['-']]) (hwhole : IsDigits whole)
      (hzero : whole.head? = some '0' → whole = ['0']) (hplaces : IsPlaces places)
      (hpower : IsPower power) : IsNumber (sign ++ (whole ++ (places ++ power)))

/-- A value, items or members. -/
inductive Part where
  | value (doc : Document)
  | items (items : List Document)
  | members (members : List (List Char × Document))

/-- A key with space around it. -/
def WrittenKey (key chars : List Char) : Prop :=
  ∃ before after, Blank before ∧ IsBody key ∧ Blank after ∧
    chars = before ++ '"' :: (key ++ '"' :: after)

inductive Written : Part → List Char → Prop
  | null : Written (.value .null) ['n', 'u', 'l', 'l']
  | true : Written (.value (.bool true)) ['t', 'r', 'u', 'e']
  | false : Written (.value (.bool false)) ['f', 'a', 'l', 's', 'e']
  | number {literal : List Char} (h : IsNumber literal) : Written (.value (.number literal)) literal
  | string {body : List Char} (h : IsBody body) :
      Written (.value (.string body)) ('"' :: (body ++ ['"']))
  | emptyArray {space : List Char} (h : Blank space) :
      Written (.value (.array [])) ('[' :: (space ++ [']']))
  | array {items : List Document} {chars : List Char} (h : Written (.items items) chars) :
      Written (.value (.array items)) ('[' :: (chars ++ [']']))
  | emptyObject {space : List Char} (h : Blank space) :
      Written (.value (.object [])) ('\x7b' :: (space ++ ['\x7d']))
  | object {members : List (List Char × Document)} {chars : List Char}
      (h : Written (.members members) chars) :
      Written (.value (.object members)) ('\x7b' :: (chars ++ ['\x7d']))
  | spaced {doc : Document} {before chars after : List Char} (hbefore : Blank before)
      (h : Written (.value doc) chars) (hafter : Blank after) :
      Written (.value doc) (before ++ (chars ++ after))
  | lastItem {item : Document} {chars : List Char} (h : Written (.value item) chars) :
      Written (.items [item]) chars
  | item {item : Document} {items : List Document} {chars others : List Char}
      (h : Written (.value item) chars) (hrest : Written (.items items) others) :
      Written (.items (item :: items)) (chars ++ ',' :: others)
  | lastMember {key : List Char} {item : Document} {label chars : List Char}
      (hkey : WrittenKey key label) (h : Written (.value item) chars) :
      Written (.members [(key, item)]) (label ++ ':' :: chars)
  | member {key : List Char} {item : Document} {members : List (List Char × Document)}
      {label chars others : List Char} (hkey : WrittenKey key label)
      (h : Written (.value item) chars) (hrest : Written (.members members) others) :
      Written (.members ((key, item) :: members)) (label ++ ':' :: (chars ++ ',' :: others))

/-- What may follow a value. -/
def delimiters : List Char := [' ', '\t', '\n', '\r', ',', ']', '\x7d']

def Delimited (rest : List Char) : Prop := ∀ c ∈ rest.head?, c ∈ delimiters

section Scanning
variable {rest : List Char}

theorem skipSpace_append {space : List Char} (h : Blank space) (rest : List Char) :
    skipSpace (space ++ rest) = skipSpace rest := List.dropWhile_append_of_pos h

theorem skipSpace_skipSpace (chars : List Char) : skipSpace (skipSpace chars) = skipSpace chars :=
  List.dropWhile_idempotent ..

theorem Delimited.append {space : List Char} (hspace : Blank space) (h : Delimited rest) :
    Delimited (space ++ rest) := by
  cases space with
  | nil => exact h
  | cons c others =>
    intro d hd
    cases hd
    have hc : isSpace c = true := hspace c List.mem_cons_self
    have hany : ((c = ' ' ∨ c = '\t') ∨ c = '\n') ∨ c = '\r' := by simpa [isSpace] using hc
    rcases hany with ((rfl | rfl) | rfl) | rfl <;> decide

theorem Delimited.stops {p : Char → Bool} (h : Delimited rest)
    (hp : delimiters.all (!p ·) = true) : Stops p rest := by
  intro c hc
  simpa using List.all_eq_true.1 hp c (h c hc)

theorem IsDigits.exists_cons {digits : List Char} (h : IsDigits digits) :
    ∃ c others, digits = c :: others ∧ isDigit c = true := by
  obtain ⟨c, others, rfl⟩ := List.exists_cons_of_ne_nil h.nonempty
  exact ⟨c, others, rfl, h.digits c List.mem_cons_self⟩

theorem scanDigits_append {digits : List Char} (h : IsDigits digits) (hrest : Stops isDigit rest) :
    scanDigits (digits ++ rest) = some (digits, rest) := by
  have htake : (digits ++ rest).takeWhile isDigit = digits := by
    rw [takeWhile_append_of_stops digits hrest]
    simpa using @List.takeWhile_append_of_pos _ isDigit digits [] h.digits
  have hdrop : (digits ++ rest).dropWhile isDigit = rest := by
    rw [List.dropWhile_append_of_pos h.digits]
    simpa using dropWhile_append_of_stops [] hrest
  obtain ⟨c, others, rfl, -⟩ := h.exists_cons
  rw [scanDigits, htake, hdrop]

theorem IsPlaces.stops {places : List Char} (h : IsPlaces places) (hrest : Stops isDigit rest) :
    Stops isDigit (places ++ rest) := by
  cases h with
  | none => exact hrest
  | some h =>
    intro c hc
    cases hc
    decide

theorem IsPower.stops {power : List Char} {p : Char → Bool} (h : IsPower power)
    (hsmall : p 'e' = false) (hlarge : p 'E' = false) (hrest : Stops p rest) :
    Stops p (power ++ rest) := by
  cases h with
  | none => exact hrest
  | @unsigned mark _ he _ | @signed mark _ _ he _ _ =>
    intro c hc
    cases hc
    rcases he with rfl | rfl
    · exact hsmall
    · exact hlarge

theorem scanPlaces_append {places : List Char} (h : IsPlaces places) (hdigit : Stops isDigit rest)
    (hpoint : Stops ('.' == ·) rest) : scanPlaces (places ++ rest) = some (places, rest) := by
  cases h with
  | none =>
    cases rest with
    | nil => rfl
    | cons c others =>
      have hc := hpoint c rfl
      unfold scanPlaces
      split
      · rename_i heq
        cases heq
        cases hc
      · rfl
  | some h =>
    rw [List.cons_append, scanPlaces, scanDigits_append h hdigit]
    rfl

theorem scanPower_append {power : List Char} (h : IsPower power) (hdigit : Stops isDigit rest)
    (hmark : Stops (fun c => c == 'e' || c == 'E') rest) :
    scanPower (power ++ rest) = some (power, rest) := by
  cases h with
  | none =>
    cases rest with
    | nil => rfl
    | cons c others =>
      have hc : ¬(c == 'e' || c == 'E') = true := Bool.eq_false_iff.1 (hmark c rfl)
      rw [List.nil_append, scanPower.eq_def]
      exact if_neg hc
  | @unsigned mark digits he h =>
    have hmarked : (mark == 'e' || mark == 'E') = true := by simpa using he
    obtain ⟨c, others, rfl, hc⟩ := h.exists_cons
    have hread : scanDigits (c :: (others ++ rest)) = some (c :: others, rest) :=
      scanDigits_append h hdigit
    change scanPower (mark :: c :: (others ++ rest)) = _
    unfold scanPower
    rw [if_pos hmarked]
    split
    · rename_i heq
      cases heq
      cases hc
    · rename_i heq
      cases heq
      cases hc
    · rw [hread]
      rfl
  | @signed mark sign digits he hsign h =>
    have hmarked : (mark == 'e' || mark == 'E') = true := by simpa using he
    change scanPower (mark :: sign :: (digits ++ rest)) = _
    unfold scanPower
    rw [if_pos hmarked]
    rcases hsign with rfl | rfl
    · change (scanDigits (digits ++ rest)).map _ = _
      rw [scanDigits_append h hdigit]
      rfl
    · change (scanDigits (digits ++ rest)).map _ = _
      rw [scanDigits_append h hdigit]
      rfl

theorem scanNumber_append {literal : List Char} (h : IsNumber literal) (hrest : Delimited rest) :
    scanNumber (literal ++ rest) = some (literal, rest) := by
  cases h with
  | @mk sign whole places power hsign hwhole hzero hplaces hpower =>
    have hdigit : Stops isDigit rest := hrest.stops rfl
    have hbehind : Stops isDigit (power ++ rest) := hpower.stops rfl rfl hdigit
    have hpoint : Stops ('.' == ·) (power ++ rest) :=
      hpower.stops rfl rfl (hrest.stops rfl)
    have hunsigned : scanUnsigned (whole ++ (places ++ power) ++ rest) =
        some (whole ++ (places ++ power), rest) := by
      have hleading : ¬(whole.head? = some '0' ∧ whole ≠ ['0']) := fun h => h.2 (hzero h.1)
      have hscan : scanWhole (whole ++ (places ++ (power ++ rest))) =
          some (whole, places ++ (power ++ rest)) := by
        rw [scanWhole, scanDigits_append hwhole (hplaces.stops hbehind)]
        exact if_neg hleading
      rw [List.append_assoc, List.append_assoc, scanUnsigned, hscan]
      simp only [Option.bind_eq_bind, Option.bind_some, scanPlaces_append hplaces hbehind hpoint,
        scanPower_append hpower hdigit (hrest.stops rfl), List.append_assoc]
    obtain ⟨c, others, hcons, hc⟩ := hwhole.exists_cons
    simp only [List.mem_cons, List.not_mem_nil, or_false] at hsign
    rcases hsign with rfl | rfl
    · rw [List.nil_append, scanNumber.eq_def]
      split
      · rename_i heq
        rw [hcons] at heq
        cases heq
        cases hc
      · exact hunsigned
    · rw [List.append_assoc, List.cons_append, List.nil_append, scanNumber, hunsigned]
      rfl

theorem scanString_unit (a b c d : Char) (rest : List Char) :
    scanString ('\\' :: 'u' :: a :: b :: c :: d :: rest) =
      if isHex a && isHex b && isHex c && isHex d then
        (scanString rest).map fun (body, rest) => ('\\' :: 'u' :: a :: b :: c :: d :: body, rest)
      else none := rfl

theorem scanString_backslash {c : Char}
    (hunit : ∀ w x y z others, c = 'u' → rest = w :: x :: y :: z :: others → False) :
    scanString ('\\' :: c :: rest) =
      if isEscape c then (scanString rest).map fun (body, rest) => ('\\' :: c :: body, rest)
      else none := by
  rw [scanString.eq_def]
  split
  · rename_i heq
    cases heq
  · rename_i heq
    cases heq
  · rename_i heq
    cases heq
    exact absurd rfl (hunit _ _ _ _ _ rfl)
  · rename_i heq
    cases heq
    rfl
  · rename_i hother heq
    cases heq
    exact absurd rfl (hother _ _ rfl)

theorem scanString_cons {c : Char} (hquote : c ≠ '"')
    (hescape : ∀ d others, c = '\\' → rest = d :: others → False) :
    scanString (c :: rest) =
      if c == '\\' || c.toNat < 0x20 then none
      else (scanString rest).map fun (body, rest) => (c :: body, rest) := by
  rw [scanString.eq_def]
  split
  · rename_i heq
    cases heq
  · rename_i heq
    cases heq
    exact absurd rfl hquote
  · rename_i heq
    cases heq
    exact absurd rfl (hescape _ _ rfl)
  · rename_i heq
    cases heq
    exact absurd rfl (hescape _ _ rfl)
  · rename_i heq
    cases heq
    rfl

theorem scanString_plain {c : Char} (hquote : c ≠ '"') (hbackslash : c ≠ '\\')
    (hvisible : 0x20 ≤ c.toNat) (rest : List Char) :
    scanString (c :: rest) = (scanString rest).map fun (body, rest) => (c :: body, rest) := by
  have hallowed : ¬(c == '\\' || decide (c.toNat < 0x20)) = true := by
    simp [hbackslash]
    omega
  rw [scanString_cons hquote fun _ _ h => absurd h hbackslash]
  exact if_neg hallowed

theorem scanString_escape {c : Char} (h : isEscape c = true) (rest : List Char) :
    scanString ('\\' :: c :: rest) =
      (scanString rest).map fun (body, rest) => ('\\' :: c :: body, rest) := by
  have hunit : c ≠ 'u' := by
    rintro rfl
    cases h
  rw [scanString_backslash fun _ _ _ _ _ hc => absurd hc hunit]
  exact if_pos h

theorem scanString_append {body : List Char} (h : IsBody body) (rest : List Char) :
    scanString (body ++ '"' :: rest) = some (body, rest) := by
  induction h with
  | nil => rfl
  | plain hquote hbackslash hvisible _ ih =>
    rw [List.cons_append, scanString_plain hquote hbackslash hvisible, ih]
    rfl
  | escape hescape _ ih =>
    rw [List.cons_append, List.cons_append, scanString_escape hescape, ih]
    rfl
  | @unit a b c d others hhex _ ih =>
    have hall : (isHex a && isHex b && isHex c && isHex d) = true := by simpa [and_assoc] using hhex
    change scanString ('\\' :: 'u' :: a :: b :: c :: d :: (others ++ '"' :: rest)) = _
    rw [scanString_unit, if_pos hall, ih]
    rfl

end Scanning

section Reading

/-- Reading begins behind space. -/
theorem readValue_congr {chars others : List Char} (h : skipSpace chars = skipSpace others)
    (fuel : Nat) : readValue fuel chars = readValue fuel others := by
  cases fuel with
  | zero => rw [readValue, readValue]
  | succ fuel => rw [readValue, readValue, h]

theorem readItems_congr {chars others : List Char} (h : skipSpace chars = skipSpace others)
    (fuel : Nat) : readItems fuel chars = readItems fuel others := by
  cases fuel with
  | zero => rw [readItems, readItems]
  | succ fuel => rw [readItems, readItems, readValue_congr h]

theorem readMembers_congr {chars others : List Char} (h : skipSpace chars = skipSpace others)
    (fuel : Nat) : readMembers fuel chars = readMembers fuel others := by
  cases fuel with
  | zero => rw [readMembers, readMembers]
  | succ fuel => rw [readMembers, readMembers, h]

/-- A number begins like no other part of a text. -/
theorem IsNumber.exists_cons {literal : List Char} (h : IsNumber literal) :
    ∃ c others, literal = c :: others ∧ ∀ d, d ≠ '-' → isDigit d = false → c ≠ d := by
  cases h with
  | @mk sign whole places power hsign hwhole hzero hplaces hpower =>
    obtain ⟨c, others, rfl, hc⟩ := hwhole.exists_cons
    simp only [List.mem_cons, List.not_mem_nil, or_false] at hsign
    rcases hsign with rfl | rfl
    · refine ⟨c, _, rfl, ?_⟩
      rintro _ - hdigit rfl
      exact Bool.false_ne_true (hdigit.symm.trans hc)
    · exact ⟨'-', _, rfl, fun d hminus _ => hminus.symm⟩

theorem IsNumber.skipSpace_append {literal : List Char} (h : IsNumber literal)
    (rest : List Char) : skipSpace (literal ++ rest) = literal ++ rest := by
  obtain ⟨c, others, rfl, hother⟩ := h.exists_cons
  have hspace : isSpace c = false := by
    have hblank : c ≠ ' ' := hother ' ' (by decide) rfl
    have htab : c ≠ '\t' := hother '\t' (by decide) rfl
    have hline : c ≠ '\n' := hother '\n' (by decide) rfl
    have hreturn : c ≠ '\r' := hother '\r' (by decide) rfl
    simp [isSpace, hblank, htab, hline, hreturn]
  exact List.dropWhile_cons_of_neg (Bool.eq_false_iff.1 hspace)

theorem readValue_number {literal rest : List Char} (h : IsNumber literal) (hrest : Delimited rest)
    (fuel : Nat) : readValue (fuel + 1) (literal ++ rest) = some (.number literal, rest) := by
  have hskip := h.skipSpace_append rest
  have hread := scanNumber_append h hrest
  obtain ⟨c, others, rfl, hother⟩ := h.exists_cons
  rw [readValue, hskip]
  split
  · rename_i heq
    exact absurd (List.cons.inj heq).1 (hother 'n' (by decide) rfl)
  · rename_i heq
    exact absurd (List.cons.inj heq).1 (hother 't' (by decide) rfl)
  · rename_i heq
    exact absurd (List.cons.inj heq).1 (hother 'f' (by decide) rfl)
  · rename_i heq
    exact absurd (List.cons.inj heq).1 (hother '"' (by decide) rfl)
  · rename_i heq
    exact absurd (List.cons.inj heq).1 (hother '[' (by decide) rfl)
  · rename_i heq
    exact absurd (List.cons.inj heq).1 (hother '\x7b' (by decide) rfl)
  · rw [hread]
    rfl

/-- Something follows that closes nothing. -/
def Opens (chars : List Char) : Prop :=
  ∃ c others, skipSpace chars = c :: others ∧ c ∉ [']', '\x7d']

theorem readValue_array {chars : List Char} (h : Opens chars) (fuel : Nat) :
    readValue (fuel + 1) ('[' :: chars) =
      (readItems fuel chars).map fun (items, rest) => (.array items, rest) := by
  obtain ⟨c, others, hskip, hc⟩ := h
  have hbracket : skipSpace ('[' :: chars) = '[' :: chars := rfl
  have hsame : skipSpace (c :: others) = skipSpace chars := by
    rw [← hskip, skipSpace_skipSpace]
  simp only [readValue, hbracket, hskip]
  split
  · rename_i heq
    rw [(List.cons.inj heq).1] at hc
    simp at hc
  · rw [readItems_congr hsame]

theorem readValue_object {chars : List Char} (h : Opens chars) (fuel : Nat) :
    readValue (fuel + 1) ('\x7b' :: chars) =
      (readMembers fuel chars).map fun (members, rest) => (.object members, rest) := by
  obtain ⟨c, others, hskip, hc⟩ := h
  have hbrace : skipSpace ('\x7b' :: chars) = '\x7b' :: chars := rfl
  have hsame : skipSpace (c :: others) = skipSpace chars := by
    rw [← hskip, skipSpace_skipSpace]
  simp only [readValue, hbrace, hskip]
  split
  · rename_i heq
    rw [(List.cons.inj heq).1] at hc
    simp at hc
  · rw [readMembers_congr hsame]

theorem readValue_emptyArray {space : List Char} (h : Blank space) (rest : List Char)
    (fuel : Nat) :
    readValue (fuel + 1) ('[' :: (space ++ ']' :: rest)) = some (.array [], rest) := by
  have hbracket : skipSpace ('[' :: (space ++ ']' :: rest)) = '[' :: (space ++ ']' :: rest) := rfl
  have hskip : skipSpace (space ++ ']' :: rest) = ']' :: rest := skipSpace_append h _
  simp only [readValue, hbracket, hskip]

theorem readValue_emptyObject {space : List Char} (h : Blank space) (rest : List Char)
    (fuel : Nat) :
    readValue (fuel + 1) ('\x7b' :: (space ++ '\x7d' :: rest)) = some (.object [], rest) := by
  have hbrace : skipSpace ('\x7b' :: (space ++ '\x7d' :: rest)) =
      '\x7b' :: (space ++ '\x7d' :: rest) := rfl
  have hskip : skipSpace (space ++ '\x7d' :: rest) = '\x7d' :: rest := skipSpace_append h _
  simp only [readValue, hbrace, hskip]

theorem opens_append {space chars : List Char} (hspace : Blank space) (h : Opens chars) :
    Opens (space ++ chars) := by
  obtain ⟨c, others, hskip, hc⟩ := h
  exact ⟨c, others, (skipSpace_append hspace chars).trans hskip, hc⟩

theorem WrittenKey.opens {key label : List Char} (h : WrittenKey key label) (rest : List Char) :
    Opens (label ++ rest) := by
  obtain ⟨before, after, hbefore, -, -, rfl⟩ := h
  rw [List.append_assoc]
  exact opens_append hbefore ⟨'"', _, rfl, by decide⟩

theorem Written.opens {part : Part} {chars : List Char} (h : Written part chars)
    (rest : List Char) : Opens (chars ++ rest) := by
  induction h generalizing rest with
  | null | true | false | string | emptyArray | array | emptyObject | object =>
    exact ⟨_, _, rfl, by decide⟩
  | number h =>
    have hskip := h.skipSpace_append rest
    obtain ⟨c, others, rfl, hother⟩ := h.exists_cons
    refine ⟨c, others ++ rest, hskip, ?_⟩
    have harray : c ≠ ']' := hother ']' (by decide) rfl
    have hobject : c ≠ '\x7d' := hother '\x7d' (by decide) rfl
    simp [harray, hobject]
  | spaced hbefore _ _ ih =>
    rw [List.append_assoc, List.append_assoc]
    exact opens_append hbefore (ih _)
  | lastItem _ ih => exact ih rest
  | item _ _ ih =>
    rw [List.append_assoc]
    exact ih _
  | lastMember hkey _ =>
    rw [List.append_assoc]
    exact hkey.opens _
  | member hkey _ _ =>
    rw [List.append_assoc]
    exact hkey.opens _

/-- What reading makes of the text of a part, with more text behind it. -/
def Reads : Part → List Char → Prop
  | .value doc, chars => ∀ rest fuel, Delimited rest → 2 * chars.length ≤ fuel →
      ∃ left, readValue fuel (chars ++ rest) = some (doc, left) ∧ skipSpace left = skipSpace rest
  | .items items, chars => ∀ rest fuel, 2 * chars.length < fuel →
      readItems fuel (chars ++ ']' :: rest) = some (items, rest)
  | .members members, chars => ∀ rest fuel, 2 * chars.length < fuel →
      readMembers fuel (chars ++ '\x7d' :: rest) = some (members, rest)

theorem delimited_cons {c : Char} (h : c ∈ delimiters) (rest : List Char) :
    Delimited (c :: rest) := by
  intro d hd
  cases hd
  exact h

theorem Reads.lastItem {item : Document} {chars : List Char} (h : Reads (.value item) chars) :
    Reads (.items [item]) chars := by
  intro rest fuel hfuel
  obtain ⟨fuel, rfl⟩ := Nat.exists_eq_add_of_lt hfuel
  obtain ⟨left, hread, hleft⟩ := h (']' :: rest) (2 * chars.length + fuel)
    (delimited_cons (by decide) rest) (Nat.le_add_right _ _)
  rw [readItems, hread]
  simp only [Option.bind_eq_bind, Option.bind_some, hleft]
  rfl

theorem Reads.item {item : Document} {items : List Document} {chars others : List Char}
    (h : Reads (.value item) chars) (hrest : Reads (.items items) others) :
    Reads (.items (item :: items)) (chars ++ ',' :: others) := by
  intro rest fuel hfuel
  rw [List.length_append, List.length_cons] at hfuel
  obtain ⟨fuel, rfl⟩ : ∃ n, fuel = n + 1 := ⟨fuel - 1, by omega⟩
  obtain ⟨left, hread, hleft⟩ := h (',' :: (others ++ ']' :: rest)) fuel
    (delimited_cons (by decide) _) (by omega)
  rw [List.append_assoc, List.cons_append, readItems, hread]
  simp only [Option.bind_eq_bind, Option.bind_some, hleft]
  change (readItems fuel (others ++ ']' :: rest)).map _ = _
  rw [hrest rest fuel (by omega)]
  rfl

/-- What is left of reading members behind one of them. -/
def readFurther (fuel : Nat) (key : List Char) (item : Document) :
    List Char → Option (List (List Char × Document) × List Char)
  | '\x7d' :: rest => some ([(key, item)], rest)
  | ',' :: rest => (readMembers fuel rest).map fun (members, rest) => ((key, item) :: members, rest)
  | _ => none

theorem readMembers_label {key label : List Char} (h : WrittenKey key label) (rest : List Char)
    (fuel : Nat) :
    readMembers (fuel + 1) (label ++ ':' :: rest) =
      (readValue fuel rest).bind fun (item, rest) =>
        readFurther fuel key item (skipSpace rest) := by
  obtain ⟨before, after, hbefore, hkey, hafter, rfl⟩ := h
  have hskip : skipSpace (before ++ '"' :: (key ++ '"' :: after) ++ ':' :: rest) =
      '"' :: (key ++ '"' :: (after ++ ':' :: rest)) := by
    rw [List.append_assoc, skipSpace_append hbefore, List.cons_append, List.append_assoc]
    rfl
  have hcolon : skipSpace (after ++ ':' :: rest) = ':' :: rest := skipSpace_append hafter _
  rw [readMembers, hskip]
  change (scanString (key ++ '"' :: (after ++ ':' :: rest))).bind _ = _
  rw [scanString_append hkey]
  simp only [Option.bind_some, hcolon]
  rfl

theorem Reads.lastMember {key label chars : List Char} {item : Document}
    (hkey : WrittenKey key label) (h : Reads (.value item) chars) :
    Reads (.members [(key, item)]) (label ++ ':' :: chars) := by
  intro rest fuel hfuel
  rw [List.length_append, List.length_cons] at hfuel
  obtain ⟨fuel, rfl⟩ : ∃ n, fuel = n + 1 := ⟨fuel - 1, by omega⟩
  obtain ⟨left, hread, hleft⟩ :=
    h ('\x7d' :: rest) fuel (delimited_cons (by decide) rest) (by omega)
  rw [List.append_assoc, List.cons_append, readMembers_label hkey, hread]
  simp only [Option.bind_some, hleft]
  rfl

theorem Reads.member {key label chars others : List Char} {item : Document}
    {members : List (List Char × Document)} (hkey : WrittenKey key label)
    (h : Reads (.value item) chars) (hrest : Reads (.members members) others) :
    Reads (.members ((key, item) :: members)) (label ++ ':' :: (chars ++ ',' :: others)) := by
  intro rest fuel hfuel
  simp only [List.length_append, List.length_cons] at hfuel
  obtain ⟨fuel, rfl⟩ : ∃ n, fuel = n + 1 := ⟨fuel - 1, by omega⟩
  obtain ⟨left, hread, hleft⟩ := h (',' :: (others ++ '\x7d' :: rest)) fuel
    (delimited_cons (by decide) _) (by omega)
  rw [List.append_assoc, List.cons_append, List.append_assoc, List.cons_append,
    readMembers_label hkey, hread]
  simp only [Option.bind_some, hleft]
  change (readMembers fuel (others ++ '\x7d' :: rest)).map _ = _
  rw [hrest rest fuel (by omega)]
  rfl

theorem Reads.spaced {doc : Document} {before chars after : List Char} (hbefore : Blank before)
    (h : Reads (.value doc) chars) (hafter : Blank after) :
    Reads (.value doc) (before ++ (chars ++ after)) := by
  intro rest fuel hrest hfuel
  simp only [List.length_append] at hfuel
  obtain ⟨left, hread, hleft⟩ := h (after ++ rest) fuel (hrest.append hafter) (by omega)
  refine ⟨left, ?_, hleft.trans (skipSpace_append hafter rest)⟩
  rw [List.append_assoc, List.append_assoc, readValue_congr (skipSpace_append hbefore _), hread]

/-- Two units of fuel for each character are enough. -/
theorem reads_of_written {part : Part} {chars : List Char} (h : Written part chars) :
    Reads part chars := by
  have hpositive {n fuel : Nat} (hfuel : 2 * (n + 1) ≤ fuel) : ∃ k, fuel = k + 1 + 1 :=
    ⟨fuel - 2, by omega⟩
  induction h with
  | null | true | false =>
    intro rest fuel _ hfuel
    obtain ⟨fuel, rfl⟩ := hpositive hfuel
    exact ⟨rest, rfl, rfl⟩
  | number h =>
    intro rest fuel hrest hfuel
    obtain ⟨c, others, hcons, -⟩ := h.exists_cons
    rw [hcons, List.length_cons] at hfuel
    obtain ⟨fuel, rfl⟩ := hpositive hfuel
    exact ⟨rest, readValue_number h hrest _, rfl⟩
  | @string body h =>
    intro rest fuel _ hfuel
    obtain ⟨fuel, rfl⟩ := hpositive hfuel
    refine ⟨rest, ?_, rfl⟩
    rw [List.cons_append, List.append_assoc]
    change (scanString (body ++ '"' :: rest)).map _ = _
    rw [scanString_append h]
    rfl
  | emptyArray h =>
    intro rest fuel _ hfuel
    obtain ⟨fuel, rfl⟩ := hpositive hfuel
    refine ⟨rest, ?_, rfl⟩
    rw [List.cons_append, List.append_assoc]
    exact readValue_emptyArray h rest _
  | emptyObject h =>
    intro rest fuel _ hfuel
    obtain ⟨fuel, rfl⟩ := hpositive hfuel
    refine ⟨rest, ?_, rfl⟩
    rw [List.cons_append, List.append_assoc]
    exact readValue_emptyObject h rest _
  | array h ih =>
    intro rest fuel _ hfuel
    obtain ⟨fuel, rfl⟩ := hpositive hfuel
    simp only [List.length_cons, List.length_append] at hfuel
    refine ⟨rest, ?_, rfl⟩
    rw [List.cons_append, List.append_assoc, readValue_array (h.opens _), List.singleton_append,
      ih rest _ (by omega)]
    rfl
  | object h ih =>
    intro rest fuel _ hfuel
    obtain ⟨fuel, rfl⟩ := hpositive hfuel
    simp only [List.length_cons, List.length_append] at hfuel
    refine ⟨rest, ?_, rfl⟩
    rw [List.cons_append, List.append_assoc, readValue_object (h.opens _), List.singleton_append,
      ih rest _ (by omega)]
    rfl
  | spaced hbefore _ hafter ih => exact ih.spaced hbefore hafter
  | lastItem _ ih => exact ih.lastItem
  | item _ _ ih ihrest => exact ih.item ihrest
  | lastMember hkey _ ih => exact ih.lastMember hkey
  | member hkey _ _ ih ihrest => exact ih.member hkey ihrest

/-- Nothing that is written right is turned down, and it says what was written. -/
theorem parse?_of_written {doc : Document} {text : String}
    (h : Written (.value doc) text.toList) : Document.parse? text = some doc := by
  have hend : Delimited [] := by
    rintro c ⟨⟩
  obtain ⟨left, hread, hleft⟩ := reads_of_written h [] (2 * text.toList.length + 2) hend
    (Nat.le_add_right _ _)
  rw [List.append_nil] at hread
  unfold Document.parse?
  simp only [Option.bind_eq_bind, hread, Option.bind_some, hleft]
  rfl

end Reading
end ClusterHealth.Json
