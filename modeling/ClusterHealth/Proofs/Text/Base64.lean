import ClusterHealth.Proofs.Text.Utf8
import ClusterHealth.Text.Base64
import ClusterHealth.Text.Blank
import Mathlib.Data.List.Basic

/-! Reading characters out of sixty-four undoes writing them, and nothing else can be read. -/
namespace ClusterHealth.Text.Base64

variable {c d : Char} {n : Nat} {chars : List Char} {bytes : Bytes}

theorem value?_digit (h : n < 64) : value? (digit n) = some n := by
  have hall : ∀ n : Fin 64, value? (digit n) = some n.val := by decide +kernel
  exact hall ⟨n, h⟩

/-- A character has one value at most. -/
theorem of_value? (h : value? c = some n) : n < 64 ∧ digit n = c := by
  obtain ⟨hn, hc, -⟩ := List.findIdx?_eq_some_iff_getElem.1 h
  refine ⟨hn, ?_⟩
  rw [digit, List.getD_eq_getElem?_getD, List.getElem?_eq_getElem hn]
  exact eq_of_beq hc

theorem digit_ne (h : n < 64) : digit n ≠ '=' := by
  intro heq
  have hnone : value? '=' = none := by decide
  rw [← heq, value?_digit h] at hnone
  cases hnone

theorem not_isBlank_digit (n : Nat) : isBlank (digit n) = false := by
  have hall : ('=' :: alphabet).all (fun c => !isBlank c) = true := by decide +kernel
  have hmem : digit n ∈ '=' :: alphabet := by
    rw [digit, List.getD_eq_getElem?_getD]
    cases hc : alphabet[n]? with
    | none => exact List.mem_cons_self
    | some c => exact List.mem_cons_of_mem _ (List.mem_of_getElem? hc)
  simpa using List.all_eq_true.1 hall _ hmem

/-! The groups one by one. -/

theorem decode?_two (a b : Char) : decode? [a, b, '=', '='] = (do
    let x ← value? a
    let y ← value? b
    if y % 16 = 0 then some [.ofNat (x * 4 + y / 16)] else none) := rfl

theorem decode?_three (a b : Char) (hc : c ≠ '=') : decode? [a, b, c, '='] = (do
    let x ← value? a
    let y ← value? b
    let z ← value? c
    if z % 4 = 0 then some [.ofNat (x * 4 + y / 16), .ofNat (y % 16 * 16 + z / 4)] else none) := by
  rw [decode?]
  exact hc

theorem decode?_four (a b c : Char) {rest : List Char} (hrest : d = '=' → rest ≠ []) :
    decode? (a :: b :: c :: d :: rest) = (do
      let x ← value? a
      let y ← value? b
      let z ← value? c
      let w ← value? d
      let bytes ← decode? rest
      some (.ofNat (x * 4 + y / 16) :: .ofNat (y % 16 * 16 + z / 4) :: .ofNat (z % 4 * 64 + w) ::
        bytes)) := by
  rw [decode?]
  · exact fun _ hd => hrest hd
  · exact hrest

/-- Two parts of a byte, put together again. -/
theorem ofNat_eq {a : UInt8} (h : n = a.toNat) : UInt8.ofNat n = a := by
  rw [h, UInt8.ofNat_toNat]

theorem decode?_encode (bytes : Bytes) : decode? (encode bytes) = some bytes := by
  induction bytes using encode.induct with
  | case1 => rfl
  | case2 a =>
    have ha := a.toNat_lt
    have hbyte : UInt8.ofNat (a.toNat / 4 * 4 + a.toNat % 4 * 16 / 16) = a := ofNat_eq (by omega)
    rw [encode, decode?_two, value?_digit (by omega), value?_digit (by omega)]
    change (if a.toNat % 4 * 16 % 16 = 0 then _ else _) = _
    rw [if_pos (by omega), hbyte]
  | case3 a b =>
    have ha := a.toNat_lt
    have hb := b.toNat_lt
    have hfirst : UInt8.ofNat (a.toNat / 4 * 4 + (a.toNat % 4 * 16 + b.toNat / 16) / 16) = a :=
      ofNat_eq (by omega)
    have hsecond : UInt8.ofNat
        ((a.toNat % 4 * 16 + b.toNat / 16) % 16 * 16 + b.toNat % 16 * 4 / 4) = b :=
      ofNat_eq (by omega)
    rw [encode, decode?_three _ _ (digit_ne (by omega)), value?_digit (by omega),
      value?_digit (by omega), value?_digit (by omega)]
    change (if b.toNat % 16 * 4 % 4 = 0 then _ else _) = _
    rw [if_pos (by omega), hfirst, hsecond]
  | case4 a b c rest ih =>
    have ha := a.toNat_lt
    have hb := b.toNat_lt
    have hc := c.toNat_lt
    have hfirst : UInt8.ofNat (a.toNat / 4 * 4 + (a.toNat % 4 * 16 + b.toNat / 16) / 16) = a :=
      ofNat_eq (by omega)
    have hsecond : UInt8.ofNat ((a.toNat % 4 * 16 + b.toNat / 16) % 16 * 16 +
        (b.toNat % 16 * 4 + c.toNat / 64) / 4) = b := ofNat_eq (by omega)
    have hthird : UInt8.ofNat ((b.toNat % 16 * 4 + c.toNat / 64) % 4 * 64 + c.toNat % 64) = c :=
      ofNat_eq (by omega)
    rw [encode, decode?_four _ _ _ fun heq => absurd heq (digit_ne (by omega)),
      value?_digit (by omega), value?_digit (by omega), value?_digit (by omega),
      value?_digit (by omega), ih]
    change some (_ :: _ :: _ :: rest) = _
    rw [hfirst, hsecond, hthird]

theorem eq_encode_of_decode? (h : decode? chars = some bytes) : chars = encode bytes := by
  induction chars using decode?.induct generalizing bytes with
  | case1 =>
    obtain rfl := Option.some.inj h
    rfl
  | case2 a b =>
    obtain ⟨x, hx, h⟩ := Option.bind_eq_some_iff.1 h
    obtain ⟨y, hy, h⟩ := Option.bind_eq_some_iff.1 h
    obtain ⟨hlast, h⟩ := Option.ite_none_right_eq_some.1 h
    obtain rfl := Option.some.inj h
    obtain ⟨hx, rfl⟩ := of_value? hx
    obtain ⟨hy, rfl⟩ := of_value? hy
    have hfirst : (x * 4 + y / 16) / 4 = x := by omega
    have hsecond : (x * 4 + y / 16) % 4 * 16 = y := by omega
    rw [encode, toNat_byte (by omega), hfirst, hsecond]
  | case3 a b c hc =>
    rw [decode?_three a b hc] at h
    obtain ⟨x, hx, h⟩ := Option.bind_eq_some_iff.1 h
    obtain ⟨y, hy, h⟩ := Option.bind_eq_some_iff.1 h
    obtain ⟨z, hz, h⟩ := Option.bind_eq_some_iff.1 h
    obtain ⟨hlast, h⟩ := Option.ite_none_right_eq_some.1 h
    obtain rfl := Option.some.inj h
    obtain ⟨hx, rfl⟩ := of_value? hx
    obtain ⟨hy, rfl⟩ := of_value? hy
    obtain ⟨hz, rfl⟩ := of_value? hz
    have hfirst : (x * 4 + y / 16) / 4 = x := by omega
    have hsecond : (x * 4 + y / 16) % 4 * 16 + (y % 16 * 16 + z / 4) / 16 = y := by omega
    have hthird : (y % 16 * 16 + z / 4) % 16 * 4 = z := by omega
    rw [encode, toNat_byte (by omega), toNat_byte (by omega), hfirst, hsecond, hthird]
  | case4 a b c d rest _ hrest ih =>
    rw [decode?_four a b c hrest] at h
    obtain ⟨x, hx, h⟩ := Option.bind_eq_some_iff.1 h
    obtain ⟨y, hy, h⟩ := Option.bind_eq_some_iff.1 h
    obtain ⟨z, hz, h⟩ := Option.bind_eq_some_iff.1 h
    obtain ⟨w, hw, h⟩ := Option.bind_eq_some_iff.1 h
    obtain ⟨behind, hbehind, h⟩ := Option.bind_eq_some_iff.1 h
    obtain rfl := Option.some.inj h
    obtain ⟨hx, rfl⟩ := of_value? hx
    obtain ⟨hy, rfl⟩ := of_value? hy
    obtain ⟨hz, rfl⟩ := of_value? hz
    obtain ⟨hw, rfl⟩ := of_value? hw
    have hfirst : (x * 4 + y / 16) / 4 = x := by omega
    have hsecond : (x * 4 + y / 16) % 4 * 16 + (y % 16 * 16 + z / 4) / 16 = y := by omega
    have hthird : (y % 16 * 16 + z / 4) % 16 * 4 + (z % 4 * 64 + w) / 64 = z := by omega
    have hfourth : (z % 4 * 64 + w) % 64 = w := by omega
    rw [encode, toNat_byte (by omega), toNat_byte (by omega), toNat_byte (by omega), hfirst,
      hsecond, hthird, hfourth, ih hbehind]
  | case5 chars hnil htwo hthree hfour =>
    rw [decode?] at h
    · cases h
    · exact hnil
    · exact htwo
    · exact hthree
    · exact hfour

theorem decode?_eq_some_iff : decode? chars = some bytes ↔ chars = encode bytes := by
  refine ⟨eq_encode_of_decode?, ?_⟩
  rintro rfl
  exact decode?_encode bytes

theorem not_isBlank_encode (bytes : Bytes) : ∀ c ∈ encode bytes, isBlank c = false := by
  have hfill : isBlank '=' = false := by decide
  induction bytes using encode.induct with
  | case1 => exact nofun
  | case2 a => simp [encode, not_isBlank_digit, hfill]
  | case3 a b => simp [encode, not_isBlank_digit, hfill]
  | case4 a b c rest ih => simpa [encode, not_isBlank_digit] using ih

end ClusterHealth.Text.Base64
