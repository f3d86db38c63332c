import ClusterHealth.Decimal.Binary64

/-!
The fewest decimal digits that read back as the same number. Grids of powers of ten are tried in
turn, from the one above the number down to seventeen digits; on the first grid with a point
that rounds to the number the nearer of the two neighbours is taken.
-/
namespace ClusterHealth.Decimal

/-- The value `digits · 10^exponent`. -/
structure Scaled where
  digits : Nat
  exponent : Int
  deriving DecidableEq, Inhabited

/-- A positive fraction. -/
structure Fraction where
  num : Nat
  den : Nat

/-- `n · base^power` as a fraction. -/
def Fraction.scaled (n base : Nat) (power : Int) : Fraction :=
  if power < 0 then ⟨n, base.pow power.natAbs⟩ else ⟨n * base.pow power.natAbs, 1⟩

/-- `x · 10^(-exponent)`. -/
def Fraction.onGrid (x : Fraction) (exponent : Int) : Fraction :=
  if exponent < 0 then ⟨x.num * Nat.pow 10 exponent.natAbs, x.den⟩
  else ⟨x.num, x.den * Nat.pow 10 exponent.natAbs⟩

/-- Whether `10^power ≤ x`. -/
def Fraction.atLeast (x : Fraction) (power : Int) : Bool :=
  let y := x.onGrid power
  y.den ≤ y.num

/-- The greatest power of ten, of `power` and `fuel` ones below it, that does not exceed `x`. -/
def Fraction.leadingPower (x : Fraction) (power : Int) : Nat → Int
  | 0 => power
  | fuel + 1 => if x.atLeast power then power else x.leadingPower (power - 1) fuel

/-- The ends of the stretch of reals that round to a number, in quarters of its last place. -/
def Binary64.lowerQuarters (x : Binary64) : Nat :=
  4 * x.significand - (if x.fraction = 0 ∧ 1 < x.biasedExponent then 1 else 2)

def Binary64.upperQuarters (x : Binary64) : Nat := 4 * x.significand + 2

/-- Whether `digits · 10^exponent` rounds to `x`; the ends belong to an even significand. -/
def Binary64.readsBack (x : Binary64) (d : Scaled) : Bool :=
  let point := Fraction.scaled d.digits 10 d.exponent
  let low := Fraction.scaled x.lowerQuarters 2 (x.scale - 2)
  let high := Fraction.scaled x.upperQuarters 2 (x.scale - 2)
  let left := (low.num * point.den, point.num * low.den)
  let right := (point.num * high.den, high.num * point.den)
  if x.significand % 2 = 0 then left.1 ≤ left.2 && right.1 ≤ right.2
  else left.1 < left.2 && right.1 < right.2

/-- The neighbours of `x` on the grid of multiples of `10^exponent`, the nearer one first. -/
def Binary64.neighbours (x : Binary64) (exponent : Int) : List Scaled :=
  let y := (Fraction.scaled x.significand 2 x.scale).onGrid exponent
  let below := y.num / y.den
  let rest := y.num % y.den
  let belowFirst := 2 * rest < y.den || (2 * rest == y.den && below % 2 == 0)
  if belowFirst then [⟨below, exponent⟩, ⟨below + 1, exponent⟩]
  else [⟨below + 1, exponent⟩, ⟨below, exponent⟩]

/-- The shortest decimal of a finite number; zero has the digit zero. -/
def Binary64.shortest (x : Binary64) : Scaled :=
  if x.significand = 0 then ⟨0, 0⟩
  else
    let lead := (Fraction.scaled x.significand 2 x.scale).leadingPower 309 634
    let grid (i : Nat) := (x.neighbours (lead + 1 - i)).find? x.readsBack
    ((List.range 18).findSome? grid).getD ⟨0, 0⟩

end ClusterHealth.Decimal
