import ClusterHealth.Text.Utf8
import Mathlib.Data.String.Basic

/-! Strict reading of bytes undoes writing a text, and nothing else can be read. -/
namespace ClusterHealth.Text

/-- A byte behind the leading one. -/
def Follows (b : UInt8) : Prop := 0x80 ≤ b.toNat ∧ b.toNat < 0xc0

/-- A byte right behind the leading one. Long forms of smaller code points, surrogates and what is
too large are left out. -/
def Second (lead b : UInt8) : Prop :=
  Follows b ∧ (lead.toNat = 0xe0 → 0xa0 ≤ b.toNat) ∧ (lead.toNat = 0xed → b.toNat < 0xa0) ∧
    (lead.toNat = 0xf0 → 0x90 ≤ b.toNat) ∧ (lead.toNat = 0xf4 → b.toNat < 0x90)

/-- How many bytes follow a leading one. -/
def followCount (lead : UInt8) : Nat :=
  if lead.toNat < 0xe0 then 1 else if lead.toNat < 0xf0 then 2 else 3

/-- The bytes of a character with its code point. -/
inductive Coded : Nat → Bytes → Prop
  | single {n : Nat} {lead : UInt8} (hn : n = lead.toNat) (hlead : lead.toNat < 0x80) :
      Coded n [lead]
  | several {n : Nat} {lead b : UInt8} {more : Bytes} (hn : n = codePoint lead (b :: more))
      (hlead : 0xc2 ≤ lead.toNat ∧ lead.toNat < 0xf5) (hb : Second lead b)
      (hmore : ∀ d ∈ more, Follows d) (hcount : more.length + 1 = followCount lead) :
      Coded n (lead :: b :: more)

variable {n count : Nat} {lead low high b : UInt8} {more rest bytes : Bytes} {c : Char}

/-! Characters have these bytes and no others. -/

theorem toNat_byte (h : n < 256) : (UInt8.ofNat n).toNat = n := UInt8.toNat_ofNat_of_lt' h

theorem toNat_ofNat_of_valid (h : n.isValidChar) : (Char.ofNat n).toNat = n := by
  unfold Char.ofNat
  rw [dif_pos h]
  unfold Char.ofNatAux Char.toNat
  simp

theorem followCount_eq (h : count = 1 ∧ lead.toNat < 0xe0 ∨
    count = 2 ∧ 0xe0 ≤ lead.toNat ∧ lead.toNat < 0xf0 ∨ count = 3 ∧ 0xf0 ≤ lead.toNat) :
    followCount lead = count := by
  unfold followCount
  split_ifs <;> omega

theorem coded_utf8EncodeChar (c : Char) : Coded c.toNat (String.utf8EncodeChar c) := by
  have hvalid : c.val.toNat < 0xd800 ∨ 0xdfff < c.val.toNat ∧ c.val.toNat < 0x110000 := c.valid
  have hrest (n : Nat) : Follows (UInt8.ofNat (n % 64 + 128)) := by
    unfold Follows
    rw [UInt8.toNat_ofNat']
    omega
  change Coded c.val.toNat _
  unfold String.utf8EncodeChar
  generalize c.val.toNat = n at hvalid
  dsimp only
  split_ifs with hone htwo hthree
  · refine .single ?_ ?_ <;>
    · rw [UInt8.toNat_ofNat']
      omega
  · have hlead : (UInt8.ofNat (n / 64 % 32 + 192)).toNat = n / 64 % 32 + 192 :=
      toNat_byte (by omega)
    refine .several ?_ (by omega) ⟨hrest _, ?_⟩ nofun (followCount_eq (by simp; omega)).symm
    · simp only [codePoint, List.foldl_cons, List.foldl_nil, List.length_cons, List.length_nil,
        UInt8.toNat_ofNat']
      omega
    · omega
  · have hlead : (UInt8.ofNat (n / 4096 % 16 + 224)).toNat = n / 4096 % 16 + 224 :=
      toNat_byte (by omega)
    refine .several ?_ (by omega) ⟨hrest _, ?_⟩ ?_ (followCount_eq (by simp; omega)).symm
    · simp only [codePoint, List.foldl_cons, List.foldl_nil, List.length_cons, List.length_nil,
        UInt8.toNat_ofNat']
      omega
    · rw [hlead, UInt8.toNat_ofNat']
      omega
    · exact List.forall_mem_singleton.2 (hrest _)
  · have hlead : (UInt8.ofNat (n / 262144 % 8 + 240)).toNat = n / 262144 % 8 + 240 :=
      toNat_byte (by omega)
    refine .several ?_ (by omega) ⟨hrest _, ?_⟩ ?_ (followCount_eq (by simp; omega)).symm
    · simp only [codePoint, List.foldl_cons, List.foldl_nil, List.length_cons, List.length_nil,
        UInt8.toNat_ofNat']
      omega
    · rw [hlead, UInt8.toNat_ofNat']
      omega
    · exact List.forall_mem_cons.2 ⟨hrest _, List.forall_mem_singleton.2 (hrest _)⟩

theorem ofNat_eq_iff {a : UInt8} (hn : n < 256) : UInt8.ofNat n = a ↔ n = a.toNat := by
  rw [← UInt8.toNat_inj, toNat_byte hn]

theorem cases_of_count (h : more.length + 1 = followCount lead) :
    (more = [] ∧ lead.toNat < 0xe0) ∨
      (∃ d, more = [d] ∧ 0xe0 ≤ lead.toNat ∧ lead.toNat < 0xf0) ∨
      ∃ d e, more = [d, e] ∧ 0xf0 ≤ lead.toNat := by
  unfold followCount at h
  match more with
  | [] => split_ifs at h <;> simp_all
  | [d] => split_ifs at h <;> simp_all
  | [d, e] => split_ifs at h <;> simp_all
  | _ :: _ :: _ :: _ => split_ifs at h <;> simp at h

theorem Coded.isValidChar (h : Coded n bytes) : n.isValidChar := by
  unfold Nat.isValidChar
  cases h with
  | single hn hlead => omega
  | several hn hlead hb hmore hcount =>
    unfold Second Follows at hb
    rcases cases_of_count hcount with ⟨rfl, hlarge⟩ | ⟨d, rfl, hlarge⟩ | ⟨d, e, rfl, hlarge⟩
    · change n = _ % 32 * 64 + _ % 64 at hn
      omega
    · change n = (_ % 16 * 64 + _ % 64) * 64 + _ % 64 at hn
      omega
    · change n = ((_ % 8 * 64 + _ % 64) * 64 + _ % 64) * 64 + _ % 64 at hn
      omega

/-- The bytes of a character encode it. -/
theorem Coded.utf8EncodeChar_eq (h : Coded n bytes) :
    String.utf8EncodeChar (Char.ofNat n) = bytes := by
  have hval : (Char.ofNat n).val.toNat = n := toNat_ofNat_of_valid h.isValidChar
  unfold String.utf8EncodeChar
  rw [hval]
  dsimp only
  cases h with
  | single hn hlead => rw [if_pos (by omega), (ofNat_eq_iff (by omega)).2 hn]
  | several hn hlead hb hmore hcount =>
    unfold Second Follows at hb
    unfold Follows at hmore
    rcases cases_of_count hcount with ⟨rfl, hlarge⟩ | ⟨d, rfl, hlarge⟩ | ⟨d, e, rfl, hlarge⟩
    · change n = _ % 32 * 64 + _ % 64 at hn
      rw [if_neg (by omega), if_pos (by omega)]
      simp only [List.cons.injEq, and_true]
      constructor <;> refine (ofNat_eq_iff (by omega)).2 ?_ <;> omega
    · change n = (_ % 16 * 64 + _ % 64) * 64 + _ % 64 at hn
      have hd := hmore d List.mem_cons_self
      rw [if_neg (by omega), if_neg (by omega), if_pos (by omega)]
      simp only [List.cons.injEq, and_true]
      refine ⟨?_, ?_, ?_⟩ <;> refine (ofNat_eq_iff (by omega)).2 ?_ <;> omega
    · change n = ((_ % 8 * 64 + _ % 64) * 64 + _ % 64) * 64 + _ % 64 at hn
      have hd := hmore d List.mem_cons_self
      have he := hmore e (List.mem_cons_of_mem _ List.mem_cons_self)
      rw [if_neg (by omega), if_neg (by omega), if_neg (by omega)]
      simp only [List.cons.injEq, and_true]
      refine ⟨?_, ?_, ?_, ?_⟩ <;> refine (ofNat_eq_iff (by omega)).2 ?_ <;> omega

/-! The scanner takes these bytes as a character and no others. -/

theorem followers_eq (lead : UInt8) : followers lead =
    if lead.toNat < 0xc2 then none
    else if lead.toNat < 0xe0 then some (0x80, 0xbf, 1)
    else if lead.toNat = 0xe0 then some (0xa0, 0xbf, 2)
    else if lead.toNat = 0xed then some (0x80, 0x9f, 2)
    else if lead.toNat < 0xf0 then some (0x80, 0xbf, 2)
    else if lead.toNat = 0xf0 then some (0x90, 0xbf, 3)
    else if lead.toNat < 0xf4 then some (0x80, 0xbf, 3)
    else if lead.toNat = 0xf4 then some (0x80, 0x8f, 3)
    else none := by
  unfold followers
  simp only [UInt8.lt_iff_toNat_lt, ← UInt8.toNat_inj]
  rfl

theorem followers_eq_none (h : lead.toNat < 0xc2 ∨ 0xf5 ≤ lead.toNat) : followers lead = none := by
  rw [followers_eq]
  split_ifs <;> first | rfl | omega

theorem exists_followers (h : 0xc2 ≤ lead.toNat ∧ lead.toNat < 0xf5) :
    ∃ low high, followers lead = some (low, high, followCount lead) ∧
      ∀ b, low ≤ b ∧ b ≤ high ↔ Second lead b := by
  unfold followCount Second Follows
  simp only [UInt8.le_iff_toNat_le]
  rw [followers_eq]
  split_ifs
  all_goals first | omega | refine ⟨_, _, rfl, fun b => ?_⟩
  all_goals simp; omega

theorem follows_iff : 0x80 ≤ b ∧ b ≤ 0xbf ↔ Follows b := by
  rw [UInt8.le_iff_toNat_le, UInt8.le_iff_toNat_le]
  change 0x80 ≤ b.toNat ∧ b.toNat ≤ 0xbf ↔ 0x80 ≤ b.toNat ∧ b.toNat < 0xc0
  omega

theorem takeFollowers_cons (hb : low ≤ b ∧ b ≤ high) (count : Nat) (rest : Bytes) :
    takeFollowers low high (count + 1) (b :: rest) = b :: takeFollowers 0x80 0xbf count rest := by
  rw [takeFollowers, if_pos hb]

theorem takeFollowers_append (h : ∀ d ∈ more, Follows d) (rest : Bytes) :
    takeFollowers 0x80 0xbf more.length (more ++ rest) = more := by
  induction more with
  | nil => rfl
  | cons d more ih =>
    obtain ⟨hd, hmore⟩ := List.forall_mem_cons.1 h
    rw [List.length_cons, List.cons_append, takeFollowers_cons (follows_iff.2 hd), ih hmore]

theorem exists_of_length_succ
    (h : (takeFollowers low high (count + 1) rest).length = count + 1) :
    ∃ b behind, rest = b :: behind ∧ (low ≤ b ∧ b ≤ high) ∧
      (takeFollowers 0x80 0xbf count behind).length = count := by
  cases rest with
  | nil => cases h
  | cons b behind =>
    by_cases hb : low ≤ b ∧ b ≤ high
    · rw [takeFollowers_cons hb] at h
      exact ⟨b, behind, rfl, hb, Nat.succ.inj h⟩
    · rw [takeFollowers, if_neg hb] at h
      cases h

/-- Bytes are missing behind a leading one unless as many as needed may follow. -/
theorem exists_of_length_takeFollowers
    (h : (takeFollowers 0x80 0xbf count rest).length = count) :
    ∃ more behind, rest = more ++ behind ∧ more.length = count ∧ ∀ d ∈ more, Follows d := by
  induction count generalizing rest with
  | zero => exact ⟨[], rest, rfl, rfl, nofun⟩
  | succ count ih =>
    obtain ⟨b, behind, rfl, hb, hbehind⟩ := exists_of_length_succ h
    obtain ⟨more, last, rfl, hlength, hmore⟩ := ih hbehind
    refine ⟨b :: more, last, rfl, congrArg (· + 1) hlength, ?_⟩
    exact List.forall_mem_cons.2 ⟨follows_iff.1 hb, hmore⟩

theorem lt_0x80_iff : lead < 0x80 ↔ lead.toNat < 0x80 := UInt8.lt_iff_toNat_lt

theorem scanChar_of_coded (h : Coded n (lead :: more)) (rest : Bytes) :
    scanChar lead (more ++ rest) = (some (Char.ofNat n), more.length) := by
  unfold scanChar
  cases h with
  | single hn hlead =>
    rw [if_pos (lt_0x80_iff.2 hlead), hn]
    rfl
  | @several _ b more hn hlead hb hmore hcount =>
    obtain ⟨low, high, hfollowers, hsecond⟩ := exists_followers hlead
    have hlarge : ¬lead < 0x80 := by
      rw [lt_0x80_iff]
      omega
    have htaken : takeFollowers low high (followCount lead) (b :: more ++ rest) = b :: more := by
      rw [← hcount, List.cons_append, takeFollowers_cons ((hsecond b).2 hb),
        takeFollowers_append hmore]
    rw [if_neg hlarge, hfollowers]
    dsimp only
    rw [htaken, List.length_cons, if_pos hcount, hn, hcount]

theorem coded_of_scanChar (h : scanChar lead rest = (some c, count)) :
    ∃ more behind, rest = more ++ behind ∧ more.length = count ∧ Coded c.toNat (lead :: more) := by
  have hcoded : ∃ n more behind, rest = more ++ behind ∧ more.length = count ∧
      c = Char.ofNat n ∧ Coded n (lead :: more) := by
    unfold scanChar at h
    by_cases hsmall : lead < 0x80
    · rw [if_pos hsmall] at h
      obtain ⟨hc, rfl⟩ := Prod.mk.inj h
      exact ⟨_, [], rest, rfl, rfl, (Option.some.inj hc).symm, .single rfl (lt_0x80_iff.1 hsmall)⟩
    · rw [if_neg hsmall] at h
      by_cases hlead : 0xc2 ≤ lead.toNat ∧ lead.toNat < 0xf5
      · obtain ⟨low, high, hfollowers, hsecond⟩ := exists_followers hlead
        rw [hfollowers] at h
        dsimp only at h
        split_ifs at h with hlength
        · obtain ⟨hc, rfl⟩ := Prod.mk.inj h
          obtain ⟨k, hk⟩ : ∃ k, followCount lead = k + 1 := by
            unfold followCount
            split_ifs <;> exact ⟨_, rfl⟩
          rw [hk] at hlength hc ⊢
          obtain ⟨b, behind, rfl, hb, hbehind⟩ := exists_of_length_succ hlength
          obtain ⟨more, last, rfl, hcount, hmore⟩ := exists_of_length_takeFollowers hbehind
          rw [takeFollowers_cons hb, ← hcount, takeFollowers_append hmore] at hc
          refine ⟨_, b :: more, last, rfl, congrArg (· + 1) hcount, (Option.some.inj hc).symm, ?_⟩
          exact .several rfl hlead ((hsecond b).1 hb) hmore (hk ▸ congrArg (· + 1) hcount)
        · cases h
      · rw [followers_eq_none (by omega)] at h
        cases h
  obtain ⟨n, more, behind, hrest, hcount, rfl, hn⟩ := hcoded
  refine ⟨more, behind, hrest, hcount, ?_⟩
  rwa [toNat_ofNat_of_valid hn.isValidChar]

/-! Whole texts. -/

theorem scan_cons (lead : UInt8) (rest : Bytes) :
    scan (lead :: rest) =
      (scanChar lead rest).1 :: scan (rest.drop (scanChar lead rest).2) := by
  rw [scan]

theorem scan_encode (chars : List Char) :
    scan (chars.flatMap String.utf8EncodeChar) = chars.map some := by
  induction chars with
  | nil =>
    unfold scan
    rfl
  | cons c chars ih =>
    have hcoded := coded_utf8EncodeChar c
    rw [List.flatMap_cons]
    cases hbytes : String.utf8EncodeChar c with
    | nil => exact absurd hbytes String.utf8EncodeChar_ne_nil
    | cons lead more =>
      rw [hbytes] at hcoded
      rw [List.cons_append, scan_cons, scanChar_of_coded hcoded, List.drop_left, ih,
        Char.ofNat_toNat, List.map_cons]

theorem eq_of_scan {chars : List Char} (h : scan bytes = chars.map some) :
    bytes = chars.flatMap String.utf8EncodeChar := by
  induction chars generalizing bytes with
  | nil =>
    cases bytes with
    | nil => rfl
    | cons lead rest =>
      rw [scan_cons] at h
      cases h
  | cons c chars ih =>
    cases bytes with
    | nil =>
      unfold scan at h
      cases h
    | cons lead rest =>
      obtain ⟨⟨first, count⟩, hscan⟩ : ∃ scanned, scanChar lead rest = scanned := ⟨_, rfl⟩
      rw [scan_cons, hscan, List.map_cons, List.cons.injEq] at h
      obtain ⟨rfl, hbehind⟩ := h
      obtain ⟨more, behind, rfl, rfl, hcoded⟩ := coded_of_scanChar hscan
      have hbytes : String.utf8EncodeChar c = lead :: more := by
        rw [← hcoded.utf8EncodeChar_eq, Char.ofNat_toNat]
      rw [List.drop_left] at hbehind
      rw [List.flatMap_cons, hbytes, ← ih hbehind]
      rfl

theorem mapM_id_eq_some_iff {α : Type} {items : List (Option α)} {values : List α} :
    items.mapM id = some values ↔ items = values.map some := by
  induction items generalizing values with
  | nil => cases values <;> simp
  | cons item items ih =>
    rw [List.mapM_cons, Option.bind_eq_bind, Option.bind_eq_some_iff]
    constructor
    · rintro ⟨value, rfl, h⟩
      obtain ⟨others, hothers, h⟩ := Option.bind_eq_some_iff.1 h
      obtain rfl := Option.some.inj h
      rw [List.map_cons, ← ih.1 hothers]
    · intro h
      cases values with
      | nil => cases h
      | cons value values =>
        obtain ⟨rfl, hitems⟩ := List.cons.inj h
        exact ⟨value, rfl, Option.bind_eq_some_iff.2 ⟨values, ih.2 hitems, rfl⟩⟩

theorem decodeUtf8?_eq_some_iff {text : String} :
    decodeUtf8? bytes = some text ↔ bytes = encodeUtf8 text := by
  unfold decodeUtf8? encodeUtf8
  rw [Option.map_eq_some_iff]
  constructor
  · rintro ⟨chars, hchars, rfl⟩
    rw [String.toList_ofList]
    exact eq_of_scan (mapM_id_eq_some_iff.1 hchars)
  · rintro rfl
    exact ⟨text.toList, mapM_id_eq_some_iff.2 (scan_encode _), String.ofList_toList⟩

end ClusterHealth.Text
