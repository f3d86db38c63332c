import ClusterHealth.Proofs.Json.Records
import ClusterHealth.Proofs.SocketAddress

/-! Whole numbers in documents are read back as they are while they fit. -/
namespace ClusterHealth.Json
open Decimal (isDigit digitValue natOfDigits takeSign)
open SocketAddress (isDigit_of_mem_toDigits natOfDigits_toDigits takeWhile_toDigits
  dropWhile_toDigits)

section Digits
variable {digits : List Char} {value : Nat}

/-- The number that digits make behind those of another one. -/
def appendDigits (value : Nat) (digits : List Char) : Nat :=
  digits.foldl (fun n c => n * 10 + digitValue c) value

theorem le_appendDigits (value : Nat) (digits : List Char) : value ≤ appendDigits value digits := by
  induction digits generalizing value with
  | nil => exact Nat.le_refl _
  | cons c digits ih =>
    have hstep : value ≤ value * 10 + digitValue c := by omega
    exact Nat.le_trans hstep (ih _)

def Significand.addDigits (s : Significand) (digits : List Char) : Significand :=
  digits.foldl (fun s c => s.addWhole (digitValue c)) s

theorem Significand.addDigits_full {s : Significand} (h : s.full = true) (digits : List Char) :
    (s.addDigits digits).full = true := by
  induction digits generalizing s with
  | nil => exact h
  | cons c digits ih =>
    have hnext : (s.addWhole (digitValue c)).full = true := by simp [addWhole, h]
    exact ih hnext

theorem Significand.addWhole_of_le {digit : Nat} (h : value * 10 + digit ≤ wholeBound)
    (power : Int) : addWhole ⟨value, power, false⟩ digit = ⟨value * 10 + digit, power, false⟩ := by
  simp [addWhole, Nat.not_lt.2 h]

theorem Significand.addDigits_of_le (h : appendDigits value digits ≤ wholeBound) (power : Int) :
    addDigits ⟨value, power, false⟩ digits = ⟨appendDigits value digits, power, false⟩ := by
  induction digits generalizing value with
  | nil => rfl
  | cons c digits ih =>
    have hfits : value * 10 + digitValue c ≤ wholeBound := Nat.le_trans (le_appendDigits _ digits) h
    change addDigits (addWhole ⟨value, power, false⟩ (digitValue c)) digits = _
    rw [addWhole_of_le hfits]
    exact ih h

theorem Significand.addDigits_of_lt (hvalue : value ≤ wholeBound)
    (h : wholeBound < appendDigits value digits) (power : Int) :
    (addDigits ⟨value, power, false⟩ digits).full = true := by
  induction digits generalizing value with
  | nil => exact absurd hvalue (Nat.not_le.2 h)
  | cons c digits ih =>
    change (addDigits (addWhole ⟨value, power, false⟩ (digitValue c)) digits).full = true
    by_cases hfits : value * 10 + digitValue c ≤ wholeBound
    · rw [addWhole_of_le hfits]
      exact ih hfits h
    · refine addDigits_full ?_ digits
      simp [addWhole, Nat.not_le.1 hfits]

end Digits

/-- The literal of a whole number. -/
def integerLiteral (n : Int) : List Char := (toString n).toList

theorem integerLiteral_eq (n : Int) :
    integerLiteral n = (if n < 0 then ['-'] else []) ++ Nat.toDigits 10 n.natAbs := by
  cases n with
  | ofNat n =>
    rw [if_neg (by simp)]
    exact String.toList_ofList
  | negSucc n =>
    rw [if_pos (Int.negSucc_lt_zero n)]
    change ("-" ++ Nat.repr (n + 1)).toList = _
    rw [String.toList_append]
    exact congrArg (['-'] ++ ·) String.toList_ofList

theorem takeSign_integerLiteral (n : Int) :
    takeSign (integerLiteral n) = (decide (n < 0), Nat.toDigits 10 n.natAbs) := by
  rw [integerLiteral_eq]
  by_cases hn : n < 0
  · rw [if_pos hn, decide_eq_true hn]
    rfl
  · rw [if_neg hn, decide_eq_false hn, List.nil_append]
    have hdigits : ∀ c ∈ Nat.toDigits 10 n.natAbs, isDigit c = true := fun _ =>
      isDigit_of_mem_toDigits
    unfold takeSign
    split
    · rename_i heq
      rw [heq] at hdigits
      exact absurd (hdigits '-' List.mem_cons_self) (by decide)
    · rename_i heq
      rw [heq] at hdigits
      exact absurd (hdigits '+' List.mem_cons_self) (by decide)
    · rfl

/-- What the digits of a whole number are gathered into. -/
def gathered (n : Int) : Significand :=
  Significand.addDigits ⟨0, 0, false⟩ (Nat.toDigits 10 n.natAbs)

/-- An integer while that is exact, and a float otherwise. -/
theorem ofLiteral?_integerLiteral (n : Int) :
    Number.ofLiteral? (integerLiteral n) =
      if !(gathered n).full &&
          !(decide (n < 0) && ((gathered n).value = 0 || Nat.pow 2 63 < (gathered n).value)) then
        some (.integer (if n < 0 then -((gathered n).value : Int) else (gathered n).value))
      else
        (Significand.toFloat? { gathered n with full := false } (decide (n < 0)) 0).map .float := by
  unfold Number.ofLiteral?
  rw [takeSign_integerLiteral]
  simp only [takeWhile_toDigits, dropWhile_toDigits]
  by_cases h : (!(gathered n).full &&
      !(decide (n < 0) &&
        (decide ((gathered n).value = 0) || decide (Nat.pow 2 63 < (gathered n).value)))) = true
  · rw [if_pos h]
    refine (if_pos h).trans ?_
    simp only [decide_eq_true_eq]
    rfl
  · have hpower : ¬powerBound < (0 : Int).natAbs := by decide
    rw [if_neg h, Option.map_eq_bind]
    exact (if_neg h).trans (if_neg (t := (none : Option Number)) hpower)

theorem gathered_of_le {n : Int} (h : n.natAbs ≤ wholeBound) :
    gathered n = ⟨n.natAbs, 0, false⟩ := by
  have hvalue : appendDigits 0 (Nat.toDigits 10 n.natAbs) = n.natAbs := natOfDigits_toDigits _
  have hgathered := Significand.addDigits_of_le (hvalue.trans_le h) 0
  rwa [hvalue] at hgathered

theorem gathered_of_lt {n : Int} (h : wholeBound < n.natAbs) : (gathered n).full = true := by
  have hvalue : appendDigits 0 (Nat.toDigits 10 n.natAbs) = n.natAbs := natOfDigits_toDigits _
  exact Significand.addDigits_of_lt (Nat.zero_le _) (h.trans_eq hvalue.symm) 0

/-- Without a sign, 64 bits hold the number, and with one 63 do. -/
def Exact (n : Int) : Prop := n.natAbs ≤ wholeBound ∧ (n < 0 → n.natAbs ≤ Nat.pow 2 63)

theorem ofLiteral?_of_exact {n : Int} (h : Exact n) :
    Number.ofLiteral? (integerLiteral n) = some (.integer n) := by
  obtain ⟨hbound, hnegative⟩ := h
  rw [ofLiteral?_integerLiteral, gathered_of_le hbound]
  by_cases hn : n < 0
  · have hzero : n.natAbs ≠ 0 := by omega
    have hbelow : ¬Nat.pow 2 63 < n.natAbs := Nat.not_lt.2 (hnegative hn)
    have hvalue : -(n.natAbs : Int) = n := by omega
    simp only [hn, hzero, hbelow, hvalue, decide_true, decide_false, Bool.or_self, Bool.and_false,
      Bool.not_false, Bool.and_self, if_true]
  · have hvalue : (n.natAbs : Int) = n := by omega
    simp only [hn, hvalue, decide_false, Bool.false_and, Bool.not_false, Bool.and_self, if_true,
      if_false]

theorem ofLiteral?_of_not_exact {n : Int} (h : ¬Exact n) :
    ∃ x : Option Decimal.Binary64, Number.ofLiteral? (integerLiteral n) = x.map .float := by
  refine ⟨_, (ofLiteral?_integerLiteral n).trans (if_neg ?_)⟩
  by_cases hbound : n.natAbs ≤ wholeBound
  · rw [gathered_of_le hbound]
    have hnegative : n < 0 ∧ Nat.pow 2 63 < n.natAbs := by
      by_contra hnot
      exact h ⟨hbound, fun hn => Nat.not_lt.1 fun hlt => hnot ⟨hn, hlt⟩⟩
    simp only [hnegative, decide_true, Bool.or_true, Bool.and_self, Bool.not_true, Bool.and_false,
      Bool.false_eq_true, not_false_eq_true]
  · rw [gathered_of_lt (Nat.not_le.1 hbound)]
    exact Bool.false_ne_true

/-- Whether 32 bits hold a number. -/
def Fits (n : Int) : Prop := -(Nat.pow 2 31 : Int) ≤ n ∧ n < Nat.pow 2 31

instance (n : Int) : Decidable (Fits n) :=
  inferInstanceAs (Decidable (-(Nat.pow 2 31 : Int) ≤ n ∧ n < Nat.pow 2 31))

theorem Fits.exact {n : Int} (h : Fits n) : Exact n := by
  have h31 : Nat.pow 2 31 = 2147483648 := rfl
  have h63 : Nat.pow 2 63 = 9223372036854775808 := rfl
  have hbound : wholeBound = 18446744073709551615 := rfl
  obtain ⟨hlow, hhigh⟩ := h
  rw [h31] at hlow hhigh
  unfold Exact
  rw [h63, hbound]
  omega

theorem int32?_integerLiteral (n : Int) :
    (Document.number (integerLiteral n)).int32? = if Fits n then some n else none := by
  rw [Document.int32?]
  by_cases h : Exact n
  · rw [ofLiteral?_of_exact h]
    rfl
  · obtain ⟨x, hx⟩ := ofLiteral?_of_not_exact h
    rw [hx, if_neg (mt Fits.exact h)]
    cases x with
    | none => rfl
    | some x => rfl

theorem head?_toDigits {n : Nat} (h : 0 < n) : (Nat.toDigits 10 n).head? ≠ some '0' := by
  induction n using Nat.strongRecOn with
  | ind n ih =>
    by_cases hsmall : n < 10
    · have hdigit : ∀ n < 10, 0 < n → [Nat.digitChar n].head? ≠ some '0' := by decide
      rw [Nat.toDigits_of_lt_base hsmall]
      exact hdigit n hsmall h
    · rw [Nat.toDigits_of_base_le (by decide) (Nat.not_lt.1 hsmall),
        List.head?_append_of_ne_nil _ Nat.toDigits_ne_nil]
      exact ih (n / 10) (by omega) (by omega)

theorem isNumber_integerLiteral (n : Int) : IsNumber (integerLiteral n) := by
  have hdigits : IsDigits (Nat.toDigits 10 n.natAbs) :=
    ⟨Nat.toDigits_ne_nil, fun _ => isDigit_of_mem_toDigits⟩
  have hzero : (Nat.toDigits 10 n.natAbs).head? = some '0' → Nat.toDigits 10 n.natAbs = ['0'] := by
    intro h
    cases hn : n.natAbs with
    | zero => rfl
    | succ m => exact absurd h (head?_toDigits (by omega))
  have hsign : (if n < 0 then ['-'] else []) ∈ [[], ['-']] := by
    split <;> decide
  have hnumber := IsNumber.mk hsign hdigits hzero .none .none
  rwa [List.append_nil, List.append_nil, ← integerLiteral_eq] at hnumber

/-- An integer in its only spelling. -/
def MeansInteger (doc : Document) (n : Int) : Prop := doc = .number (integerLiteral n)

theorem int32?_of_means {doc : Document} {n : Int} (h : MeansInteger doc n) :
    doc.int32? = if Fits n then some n else none := by
  rw [h, int32?_integerLiteral]

theorem printable_integer (n : Int) : Printable MeansInteger n :=
  ⟨_, rfl, _, .number (isNumber_integerLiteral n)⟩

end ClusterHealth.Json
