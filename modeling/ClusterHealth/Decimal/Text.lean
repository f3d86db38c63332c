import ClusterHealth.Decimal.Shortest

/-! Numbers as text: shortest, and with a fixed count of decimal places. -/
namespace ClusterHealth.Decimal

def zeros (n : Nat) : List Char := List.replicate n '0'

/-- Where a point is written, and from which power of ten on an exponent is written instead. -/
structure PointStyle where
  leastPositional : Int
  greatestPositional : Int

/-- From `0.00001` up to sixteen digits before the point a number is written without exponent. -/
def plainStyle : PointStyle := ⟨-4, 16⟩

/-- The power of ten that follows a number; its sign is always there. -/
def exponentText (exponent : Int) : List Char :=
  ['e', if exponent < 0 then '-' else '+'] ++ Nat.toDigits 10 exponent.natAbs

/-- The digits of `d` with a point, always with a digit on both sides of it. -/
def PointStyle.write (style : PointStyle) (d : Scaled) : List Char :=
  let digits := Nat.toDigits 10 d.digits
  let point : Int := digits.length + d.exponent
  if point < style.leastPositional ∨ style.greatestPositional < point then
    let mantissa := match digits with
      | [] => []
      | [c] => [c]
      | c :: rest => c :: '.' :: rest
    mantissa ++ exponentText (point - 1)
  else if point ≤ 0 then ['0', '.'] ++ zeros point.natAbs ++ digits
  else if 0 ≤ d.exponent then digits ++ zeros d.exponent.natAbs ++ ['.', '0']
  else digits.take point.natAbs ++ ['.'] ++ digits.drop point.natAbs

/-- The shortest text that reads back as `x`. -/
def Binary64.text (x : Binary64) : String :=
  let magnitude := plainStyle.write x.shortest
  .ofList (if x.negative then '-' :: magnitude else magnitude)

/-- Quotient rounded to the nearest integer, a half to the even neighbour. -/
def roundHalfEven (num den : Nat) : Nat :=
  let q := num / den
  let r := num % den
  if 2 * r < den ∨ (2 * r = den ∧ q % 2 = 0) then q else q + 1

/-- `x` with exactly `places` decimal places. -/
def Binary64.fixed (x : Binary64) (places : Nat) : String :=
  if x.isNan then "NaN"
  else
    let sign := if x.negative then ['-'] else []
    if !x.isFinite then .ofList (sign ++ ['i', 'n', 'f'])
    else
      let y := (Fraction.scaled x.significand 2 x.scale).onGrid (-places)
      let digits := Nat.toDigits 10 (roundHalfEven y.num y.den)
      let padded := zeros (places + 1 - digits.length) ++ digits
      let whole := padded.length - places
      let tail := if places = 0 then [] else '.' :: padded.drop whole
      .ofList (sign ++ padded.take whole ++ tail)

end ClusterHealth.Decimal
