import ClusterHealth.Endpoint
import ClusterHealth.Transfer.Curl

/-! Addresses with a port behind them, read back. Scanners leave over what begins with a character
that they do not look for, so that an address is read in the same way whatever such text follows it.
A colon is no such character for addresses of eight groups, which is why these need brackets. -/
namespace ClusterHealth
open Decimal (isDigit natOfDigits digitValue)

namespace SocketAddress

/-- The first character, if any, is none of those that `p` is for. -/
def Stops (p : Char → Bool) (suffix : List Char) : Prop := ∀ c ∈ suffix.head?, p c = false

/-- What was read, with more text behind it. -/
def Scanned.before (suffix : List Char) (s : Scanned α) : Scanned α := (s.1, s.2 ++ suffix)

/-- Takes a point and an octet. -/
def scanPointed (chars : List Char) : Option (Scanned UInt8) := (scanChar '.' chars).bind scanOctet

theorem scanV4_eq (chars : List Char) :
    scanV4 chars = (scanOctet chars).bind fun a => (scanPointed a.2).bind fun b =>
      (scanPointed b.2).bind fun c => (scanPointed c.2).map fun d =>
        ((a.1, b.1, c.1, d.1), d.2) := by
  simp only [scanPointed, Option.bind_assoc, Option.map_eq_bind, scanV4]
  rfl

section Extension
variable {p : Char → Bool} {suffix : List Char} (chars : List Char)

theorem takeWhile_append_of_stops (h : Stops p suffix) :
    (chars ++ suffix).takeWhile p = chars.takeWhile p := by
  induction chars with
  | nil =>
    cases suffix with
    | nil => rfl
    | cons c rest => simp [h c rfl]
  | cons c rest ih => simp [List.takeWhile_cons, ih]

theorem dropWhile_append_of_stops (h : Stops p suffix) :
    (chars ++ suffix).dropWhile p = chars.dropWhile p ++ suffix := by
  induction chars with
  | nil =>
    cases suffix with
    | nil => rfl
    | cons c rest => simp [h c rfl]
  | cons c rest ih =>
    rw [List.cons_append, List.dropWhile_cons, List.dropWhile_cons, ih]
    split <;> rfl

theorem scanChar_append {c : Char} (h : Stops (c == ·) suffix) :
    scanChar c (chars ++ suffix) = (scanChar c chars).map (· ++ suffix) := by
  cases chars with
  | nil =>
    cases suffix with
    | nil => rfl
    | cons d rest => exact if_neg (beq_eq_false_iff_ne.1 (h d rfl))
  | cons d rest =>
    simp only [List.cons_append, scanChar]
    split <;> rfl

theorem scanDecimal_append (h : Stops isDigit suffix) (bound : Nat) :
    scanDecimal bound (chars ++ suffix) =
      (scanDecimal bound chars).map (Scanned.before suffix) := by
  simp only [scanDecimal, takeWhile_append_of_stops chars h, dropWhile_append_of_stops chars h]
  split <;> rfl

theorem scanOctet_append (h : Stops isDigit suffix) :
    scanOctet (chars ++ suffix) = (scanOctet chars).map (Scanned.before suffix) := by
  simp only [scanOctet, takeWhile_append_of_stops chars h, scanDecimal_append chars h]
  split
  · rfl
  · cases scanDecimal 255 chars with
    | none => rfl
    | some _ => rfl

theorem scanPointed_append (hdigit : Stops isDigit suffix) (hpoint : Stops ('.' == ·) suffix) :
    scanPointed (chars ++ suffix) = (scanPointed chars).map (Scanned.before suffix) := by
  rw [scanPointed, scanPointed, scanChar_append chars hpoint]
  cases scanChar '.' chars with
  | none => rfl
  | some rest => exact scanOctet_append rest hdigit

theorem scanV4_append (hdigit : Stops isDigit suffix) (hpoint : Stops ('.' == ·) suffix) :
    scanV4 (chars ++ suffix) = (scanV4 chars).map (Scanned.before suffix) := by
  simp only [scanV4_eq, scanOctet_append chars hdigit, Option.bind_map, Option.map_bind,
    Function.comp_def, Scanned.before, scanPointed_append _ hdigit hpoint, Option.map_map]

theorem scanGroup_append (h : Stops Json.isHex suffix) :
    scanGroup (chars ++ suffix) = (scanGroup chars).map (Scanned.before suffix) := by
  simp only [scanGroup, takeWhile_append_of_stops chars h, dropWhile_append_of_stops chars h]
  split <;> rfl

theorem scanColon_append (h : Stops (':' == ·) suffix) (first : Bool) :
    scanColon first (chars ++ suffix) = (scanColon first chars).map (· ++ suffix) := by
  cases first with
  | true => rfl
  | false => exact scanChar_append chars h

/-- A suffix that an address of eight groups can neither go on with nor be closed by. -/
structure Closing (suffix : List Char) : Prop where
  hex : Stops Json.isHex suffix
  digit : Stops isDigit suffix
  point : Stops ('.' == ·) suffix
  colon : Stops (':' == ·) suffix

theorem scanGroups_append (h : Closing suffix) (limit : Nat) (first : Bool) :
    scanGroups limit first (chars ++ suffix) =
      let (groups, embedded, rest) := scanGroups limit first chars
      (groups, embedded, rest ++ suffix) := by
  induction limit generalizing first chars with
  | zero => rfl
  | succ limit ih =>
    have hv4 : (scanColon first (chars ++ suffix)).bind scanV4 =
        ((scanColon first chars).bind scanV4).map (Scanned.before suffix) := by
      simp only [scanColon_append chars h.colon, Option.bind_map, Option.map_bind,
        Function.comp_def, scanV4_append _ h.digit h.point]
    have hgroup : (scanColon first (chars ++ suffix)).bind scanGroup =
        ((scanColon first chars).bind scanGroup).map (Scanned.before suffix) := by
      simp only [scanColon_append chars h.colon, Option.bind_map, Option.map_bind,
        Function.comp_def, scanGroup_append _ h.hex]
    have hnumbers : (if limit = 0 then none else (scanColon first (chars ++ suffix)).bind scanV4) =
        (if limit = 0 then none else (scanColon first chars).bind scanV4).map
          (Scanned.before suffix) := by
      rw [hv4]
      split <;> rfl
    rw [scanGroups, scanGroups, hnumbers, hgroup]
    cases (if limit = 0 then none else (scanColon first chars).bind scanV4) with
    | some _ => rfl
    | none =>
      cases (scanColon first chars).bind scanGroup with
      | none => rfl
      | some scanned =>
        have hrest := ih scanned.2 false
        simp only [Option.map_none, Option.map_some, Scanned.before, hrest]

theorem scanV6_append (h : Closing suffix) :
    scanV6 (chars ++ suffix) = (scanV6 chars).map (Scanned.before suffix) := by
  have hcolons (rest : List Char) : (scanChar ':' (rest ++ suffix)).bind (scanChar ':') =
      ((scanChar ':' rest).bind (scanChar ':')).map (· ++ suffix) := by
    simp only [scanChar_append _ h.colon, Option.bind_map, Option.map_bind, Function.comp_def]
  rw [scanV6, scanV6, scanGroups_append chars h]
  rcases scanGroups 8 true chars with ⟨head, embedded, rest⟩
  dsimp only
  split
  · rfl
  split
  · rfl
  simp only [Option.bind_eq_bind, ← Option.bind_assoc]
  rw [hcolons]
  cases (scanChar ':' rest).bind (scanChar ':') with
  | none => rfl
  | some behind =>
    have htail := scanGroups_append behind h (7 - head.length) true
    simp only [Option.map_some, Option.bind_some, htail]
    rfl

end Extension
section Decimals

theorem natOfDigits_toDigits (n : Nat) : natOfDigits (Nat.toDigits 10 n) = n := by
  have hread := @Nat.ofDigitChars_ten_toDigits n
  rw [Nat.ofDigitChars_eq_foldl] at hread
  simpa only [natOfDigits, digitValue, Nat.mul_comm] using hread

theorem isDigit_of_mem_toDigits {n : Nat} {c : Char} (h : c ∈ Nat.toDigits 10 n) :
    isDigit c = true :=
  Nat.isDigit_of_mem_toDigits (by decide) (by decide) h

theorem takeWhile_toDigits (n : Nat) :
    (Nat.toDigits 10 n).takeWhile isDigit = Nat.toDigits 10 n := by
  simpa using @List.takeWhile_append_of_pos _ isDigit _ [] fun _ => isDigit_of_mem_toDigits

theorem dropWhile_toDigits (n : Nat) : (Nat.toDigits 10 n).dropWhile isDigit = [] := by
  simpa using @List.dropWhile_append_of_pos _ isDigit _ [] fun _ => isDigit_of_mem_toDigits

/-- Digits are read back as the number that they were written for. -/
theorem scanDecimal_toDigits {n bound : Nat} (h : n ≤ bound) :
    scanDecimal bound (Nat.toDigits 10 n) = some (n, []) := by
  simp [scanDecimal, takeWhile_toDigits, dropWhile_toDigits, natOfDigits_toDigits,
    Nat.toDigits_ne_nil, h]

theorem digitValue_lt {c : Char} (h : isDigit c = true) : digitValue c < 10 := by
  have hbounds : 48 ≤ c.toNat ∧ c.toNat ≤ 57 := Char.isDigit_iff_toNat.1 h
  change c.toNat - 48 < 10
  omega

theorem digitChar_digitValue {c : Char} (h : isDigit c = true) :
    Nat.digitChar (digitValue c) = c := by
  have hbounds : 48 ≤ c.toNat ∧ c.toNat ≤ 57 := Char.isDigit_iff_toNat.1 h
  refine Char.toNat_inj.1 ?_
  rw [Nat.toNat_digitChar_of_lt_ten (digitValue_lt h)]
  change 48 + (c.toNat - 48) = c.toNat
  omega

/-- Digits behind those of a number that is not zero are the last ones of another number. -/
theorem toDigits_foldl {digits : List Char} (hdigits : ∀ c ∈ digits, isDigit c = true) {n : Nat}
    (hn : 0 < n) :
    Nat.toDigits 10 (digits.foldl (fun n c => n * 10 + digitValue c) n) =
      Nat.toDigits 10 n ++ digits := by
  induction digits generalizing n with
  | nil => rw [List.foldl_nil, List.append_nil]
  | cons c rest ih =>
    have hc := hdigits c List.mem_cons_self
    have hlast : Nat.toDigits 10 (n * 10 + digitValue c) = Nat.toDigits 10 n ++ [c] := by
      rw [Nat.mul_comm, ← Nat.toDigits_append_toDigits (by decide) hn (digitValue_lt hc),
        Nat.toDigits_of_lt_base (digitValue_lt hc), digitChar_digitValue hc]
    rw [List.foldl_cons, ih (fun d hd => hdigits d (List.mem_cons_of_mem c hd)) (by omega), hlast,
      List.append_assoc, List.singleton_append]

/-- A number that no zero leads is written as it was read. -/
theorem toDigits_natOfDigits {c : Char} {rest : List Char}
    (hdigits : ∀ d ∈ c :: rest, isDigit d = true) (hzero : c = '0' → rest = []) :
    Nat.toDigits 10 (natOfDigits (c :: rest)) = c :: rest := by
  have hc := hdigits c List.mem_cons_self
  have hfirst : Nat.toDigits 10 (digitValue c) = [c] := by
    rw [Nat.toDigits_of_lt_base (digitValue_lt hc), digitChar_digitValue hc]
  have hvalue : natOfDigits (c :: rest) =
      rest.foldl (fun n c => n * 10 + digitValue c) (digitValue c) := by
    rw [natOfDigits, List.foldl_cons, Nat.zero_mul, Nat.zero_add]
  rw [hvalue]
  by_cases hpositive : 0 < digitValue c
  · rw [toDigits_foldl (fun d hd => hdigits d (List.mem_cons_of_mem c hd)) hpositive, hfirst]
    rfl
  · have hnone : rest = [] := by
      refine hzero ?_
      rw [← digitChar_digitValue hc, Nat.eq_zero_of_not_pos hpositive]
      rfl
    rw [hnone]
    exact hfirst

theorem eq_of_scanChar {c : Char} {chars rest : List Char} (h : scanChar c chars = some rest) :
    chars = c :: rest := by
  cases chars with
  | nil => cases h
  | cons d behind =>
    simp only [scanChar, Option.ite_none_right_eq_some, Option.some.injEq] at h
    rw [h.1, h.2]

theorem eq_of_scanDecimal {bound n : Nat} {chars rest : List Char}
    (h : scanDecimal bound chars = some (n, rest)) :
    ∃ digits, digits ≠ [] ∧ (∀ d ∈ digits, isDigit d = true) ∧ digits = chars.takeWhile isDigit ∧
      chars = digits ++ rest ∧ n = natOfDigits digits ∧ n ≤ bound := by
  unfold scanDecimal at h
  dsimp only at h
  split at h
  · cases h
  · rename_i hdigits
    simp only [Bool.or_eq_true, List.isEmpty_iff, decide_eq_true_eq, not_or, Nat.not_lt] at hdigits
    obtain ⟨rfl, rfl⟩ := Prod.mk.inj (Option.some.inj h)
    exact ⟨_, hdigits.1, fun d hd => List.all_eq_true.1 List.all_takeWhile d hd, rfl,
      List.takeWhile_append_dropWhile.symm, rfl, hdigits.2⟩

/-- Octets are written as they were read. -/
theorem eq_of_scanOctet {chars rest : List Char} {n : UInt8}
    (h : scanOctet chars = some (n, rest)) : chars = Nat.toDigits 10 n.toNat ++ rest := by
  simp only [scanOctet, Option.ite_none_left_eq_some, Option.map_eq_some_iff] at h
  obtain ⟨hlead, ⟨value, behind⟩, hscan, heq⟩ := h
  obtain ⟨rfl, rfl⟩ := Prod.mk.inj heq
  obtain ⟨digits, hsome, hdigits, htake, hchars, hvalue, hbound⟩ := eq_of_scanDecimal hscan
  obtain ⟨c, more, rfl⟩ := List.exists_cons_of_ne_nil hsome
  have hzero : c = '0' → more = [] := by
    rintro rfl
    rw [← htake] at hlead
    simpa using hlead
  have hvalueNat : (UInt8.ofNat value).toNat = value := UInt8.toNat_ofNat_of_lt' (by
    change value < 256
    omega)
  rw [hvalueNat, hvalue, toDigits_natOfDigits hdigits hzero]
  exact hchars

theorem eq_of_scanPointed {chars rest : List Char} {n : UInt8}
    (h : scanPointed chars = some (n, rest)) :
    chars = '.' :: (Nat.toDigits 10 n.toNat ++ rest) := by
  obtain ⟨behind, hpoint, hoctet⟩ := Option.bind_eq_some_iff.1 h
  rw [eq_of_scanChar hpoint, eq_of_scanOctet hoctet]

/-- Addresses of four numbers are written as they were read. -/
theorem eq_of_scanV4 {chars rest : List Char} {a b c d : UInt8}
    (h : scanV4 chars = some ((a, b, c, d), rest)) :
    chars = (IpAddress.dotted a b c d).toList ++ rest := by
  simp only [scanV4_eq, Option.bind_eq_some_iff, Option.map_eq_some_iff] at h
  obtain ⟨⟨a', ra⟩, ha, ⟨b', rb⟩, hb, ⟨c', rc⟩, hc, ⟨d', rd⟩, hd, heq⟩ := h
  simp only [Prod.mk.injEq] at heq
  obtain ⟨⟨rfl, rfl, rfl, rfl⟩, rfl⟩ := heq
  have hb := eq_of_scanPointed hb
  have hc := eq_of_scanPointed hc
  have hd := eq_of_scanPointed hd
  dsimp only at hb hc hd
  have hpoint : (toString ".").toList = ['.'] := rfl
  rw [eq_of_scanOctet ha, hb, hc, hd]
  simp [IpAddress.dotted, hpoint]

end Decimals
section Ports
variable {port : Nat}

/-- A port as it is written behind an address. -/
def portText (port : Nat) : List Char := ':' :: Nat.toDigits 10 port

theorem scanPort_portText (h : port ≤ 65535) :
    scanPort (portText port) = some (.ofNat port, []) := by
  have hcolon : scanChar ':' (portText port) = some (Nat.toDigits 10 port) := rfl
  rw [scanPort, hcolon]
  simp only [Option.bind_eq_bind, Option.bind_some, scanDecimal_toDigits h]

theorem scanV4_append_portText (chars : List Char) (port : Nat) :
    scanV4 (chars ++ portText port) = (scanV4 chars).map (Scanned.before (portText port)) :=
  scanV4_append chars (by simp [Stops, portText, isDigit]) (by simp [Stops, portText])

theorem scanV4Socket_of_some {chars : List Char} {a b c d : UInt8}
    (h : scanV4 chars = some ((a, b, c, d), [])) (hport : port ≤ 65535) :
    scanV4Socket (chars ++ portText port) = some (.v4 a b c d (.ofNat port), []) := by
  rw [scanV4Socket, scanV4_append_portText, h]
  simp [Scanned.before, scanPort_portText hport]

theorem scanV4Socket_of_none {chars : List Char} (h : scanV4 chars = none) (port : Nat) :
    scanV4Socket (chars ++ portText port) = none := by
  rw [scanV4Socket, scanV4_append_portText, h]
  rfl

/-- The end of an address in brackets. -/
def bracketText (port : Nat) : List Char := ']' :: portText port

theorem closing_bracketText (port : Nat) : Closing (bracketText port) := by
  constructor <;> simp [Stops, bracketText] <;> decide

theorem scanV6Socket_of_some {chars : List Char} {groups : List UInt16}
    (h : scanV6 chars = some (groups, [])) (hport : port ≤ 65535) :
    scanV6Socket ('[' :: chars ++ bracketText port) = some (.v6 groups 0 (.ofNat port), []) := by
  have hopen : scanChar '[' ('[' :: chars ++ bracketText port) = some (chars ++ bracketText port) :=
    rfl
  rw [scanV6Socket, hopen]
  simp only [Option.bind_eq_bind, Option.bind_some]
  rw [scanV6_append chars (closing_bracketText port), h]
  have hclose : scanChar ']' (bracketText port) = some (portText port) := rfl
  simp [Scanned.before, scanScope, bracketText, scanChar, scanPort_portText hport]

theorem scanV6_bracket (chars : List Char) : scanV6 ('[' :: chars) = none := rfl

theorem scanV6Socket_of_scanV6 {chars : List Char} {groups : List UInt16}
    (h : scanV6 chars = some (groups, [])) (port : Nat) :
    scanV6Socket (chars ++ portText port) = none := by
  have hopen : scanChar '[' (chars ++ portText port) = none := by
    cases chars with
    | nil => rfl
    | cons c rest =>
      refine if_neg fun hc => ?_
      rw [← hc, scanV6_bracket] at h
      cases h
  rw [scanV6Socket, hopen]
  rfl

end Ports
end SocketAddress

/-- An address of eight groups is not one of four numbers. -/
theorem IpAddress.scan_of_parse? {text : String} {ip : IpAddress} (h : parse? text = some ip) :
    match ip with
    | .v4 a b c d => SocketAddress.scanV4 text.toList = some ((a, b, c, d), [])
    | .v6 groups => SocketAddress.scanV4 text.toList = none ∧
        SocketAddress.scanV6 text.toList = some (groups, []) := by
  unfold parse? at h
  dsimp only at h
  cases hv4 : SocketAddress.scanV4 text.toList with
  | some scanned =>
    obtain ⟨⟨a, b, c, d⟩, rest⟩ := scanned
    rw [hv4] at h
    cases rest with
    | nil =>
      obtain rfl := Option.some.inj h
      rfl
    | cons _ _ => cases h
  | none =>
    rw [hv4] at h
    cases hv6 : SocketAddress.scanV6 text.toList with
    | none =>
      rw [hv6] at h
      cases h
    | some scanned =>
      obtain ⟨groups, rest⟩ := scanned
      rw [hv6] at h
      cases rest with
      | nil =>
        obtain rfl := Option.some.inj h
        exact ⟨rfl, rfl⟩
      | cons _ _ => cases h

namespace SocketAddress
open Decimal

variable {address : String} {port : Nat} {a b c d : UInt8} {groups : List UInt16}

theorem parse?_v4 (h : IpAddress.parse? address = some (.v4 a b c d)) (hport : port ≤ 65535) :
    parse? (address ++ ":" ++ port.repr) = some (.v4 a b c d (.ofNat port)) := by
  have htext : (address ++ ":" ++ port.repr).toList = address.toList ++ portText port := by
    simp [portText]
  rw [parse?, htext, scanV4Socket_of_some (IpAddress.scan_of_parse? h) hport]
  rfl

theorem parse?_v6 (h : IpAddress.parse? address = some (.v6 groups)) (port : Nat) :
    parse? (address ++ ":" ++ port.repr) = none := by
  have htext : (address ++ ":" ++ port.repr).toList = address.toList ++ portText port := by
    simp [portText]
  obtain ⟨hv4, hv6⟩ := IpAddress.scan_of_parse? h
  rw [parse?, htext, scanV4Socket_of_none hv4, scanV6Socket_of_scanV6 hv6]
  rfl

theorem parse?_bracketed (h : IpAddress.parse? address = some (.v6 groups)) (hport : port ≤ 65535) :
    parse? ("[" ++ address ++ "]:" ++ port.repr) = some (.v6 groups 0 (.ofNat port)) := by
  have htext : ("[" ++ address ++ "]:" ++ port.repr).toList =
      '[' :: address.toList ++ bracketText port := by
    simp [portText, bracketText]
  obtain ⟨-, hv6⟩ := IpAddress.scan_of_parse? h
  have hv4 : scanV4Socket ('[' :: address.toList ++ bracketText port) = none := rfl
  rw [parse?, htext, hv4, scanV6Socket_of_some hv6 hport]
  rfl

/-- Addresses of four numbers are written as they were read. -/
theorem text_v4 (h : IpAddress.parse? address = some (.v4 a b c d)) (port : UInt16) :
    text (.v4 a b c d port) = address ++ ":" ++ port.toNat.repr := by
  have haddress : address.toList = (IpAddress.dotted a b c d).toList := by
    simpa using eq_of_scanV4 (IpAddress.scan_of_parse? h)
  rw [String.toList_inj.1 haddress]
  rfl

end SocketAddress
end ClusterHealth
