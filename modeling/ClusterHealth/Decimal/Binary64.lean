/-! Floating-point numbers of 64 bits, held as their bits so that they can be compared exactly. -/
namespace ClusterHealth.Decimal

structure Binary64 where
  bits : UInt64
  deriving DecidableEq, Inhabited

namespace Binary64

def ofFloat (x : Float) : Binary64 := ⟨x.toBits⟩
def toFloat (x : Binary64) : Float := .ofBits x.bits

/-- The number nearest to `digits · 10^exponent`. -/
def ofDecimal (negative : Bool) (digits : Nat) (exponent : Int) : Binary64 :=
  let magnitude := Float.ofScientific digits (exponent < 0) exponent.natAbs
  ofFloat (if negative then -magnitude else magnitude)

def negative (x : Binary64) : Bool := x.bits >>> 63 == 1

def biasedExponent (x : Binary64) : Nat := (x.bits.toNat / Nat.pow 2 52) % Nat.pow 2 11
def fraction (x : Binary64) : Nat := x.bits.toNat % Nat.pow 2 52

def isFinite (x : Binary64) : Bool := x.biasedExponent != 2047
def isNan (x : Binary64) : Bool := !x.isFinite && x.fraction != 0

/-- A finite number is `significand · 2^scale` up to its sign. -/
def significand (x : Binary64) : Nat :=
  if x.biasedExponent = 0 then x.fraction else x.fraction + Nat.pow 2 52

def scale (x : Binary64) : Int := (max x.biasedExponent 1 : Nat) - 1075

end Binary64
end ClusterHealth.Decimal
