import ClusterHealth.Decimal.Reading
import ClusterHealth.Rehearsal.Shell.Token

/-! Whole numbers that a shell computes. Every step spends one unit of fuel. -/
namespace ClusterHealth.Rehearsal.Shell.Arithmetic

/-- A sign between two numbers, and what it stands for; a division by zero has no value. -/
abbrev Operator := String × (Int → Int → Option Int)

def truth (b : Bool) : Option Int := some (if b then 1 else 0)

/-- Operators that bind tighter come later. A longer sign comes before its own beginning. -/
def levels : List (List Operator) := [
  [("||", fun a b => truth (a ≠ 0 || b ≠ 0))],
  [("&&", fun a b => truth (a ≠ 0 && b ≠ 0))],
  [("==", fun a b => truth (a = b)), ("!=", fun a b => truth (a ≠ b))],
  [("<=", fun a b => truth (a ≤ b)), (">=", fun a b => truth (b ≤ a)),
    ("<", fun a b => truth (a < b)), (">", fun a b => truth (b < a))],
  [("+", fun a b => some (a + b)), ("-", fun a b => some (a - b))],
  [("*", fun a b => some (a * b)),
    ("/", fun a b => if b = 0 then none else some (a.tdiv b)),
    ("%", fun a b => if b = 0 then none else some (a.tmod b))]]

def skipBlanks (chars : List Char) : List Char := chars.dropWhile (·.isWhitespace)

/-- The first operator whose sign stands here, and what stands behind it. -/
def operator? (operators : List Operator) (chars : List Char) :
    Option ((Int → Int → Option Int) × List Char) :=
  operators.findSome? fun (sign, apply) =>
    if sign.toList.isPrefixOf chars then some (apply, chars.drop sign.length) else none

mutual

/-- Reads numbers between operators of the first level. -/
def readLevel (value : String → Int) : Nat → List (List Operator) → List Char →
    Option (Int × List Char)
  | 0, _, _ => none
  | fuel + 1, [], chars => readOperand value fuel (skipBlanks chars)
  | fuel + 1, operators :: tighter, chars => do
    let (n, rest) ← readLevel value fuel tighter chars
    readFollowing value fuel operators tighter n rest

/-- Reads operators and numbers as long as there are any. -/
def readFollowing (value : String → Int) : Nat → List Operator → List (List Operator) → Int →
    List Char → Option (Int × List Char)
  | 0, _, _, _, _ => none
  | fuel + 1, operators, tighter, n, chars =>
    match operator? operators (skipBlanks chars) with
    | none => some (n, skipBlanks chars)
    | some (apply, rest) => do
      let (other, rest) ← readLevel value fuel tighter rest
      readFollowing value fuel operators tighter (← apply n other) rest

def readOperand (value : String → Int) : Nat → List Char → Option (Int × List Char)
  | 0, _ => none
  | fuel + 1, chars =>
    match chars with
    | '(' :: rest => do
      let (n, rest) ← readLevel value fuel levels rest
      let ')' :: rest := rest | none
      some (n, rest)
    | '-' :: rest => do
      let (n, rest) ← readOperand value fuel (skipBlanks rest)
      some (-n, rest)
    | '+' :: rest => readOperand value fuel (skipBlanks rest)
    | '!' :: rest => do
      let (n, rest) ← readOperand value fuel (skipBlanks rest)
      some (if n = 0 then 1 else 0, rest)
    | chars =>
      let digits := chars.takeWhile Decimal.isDigit
      let name := chars.takeWhile isNameChar
      if !digits.isEmpty then
        some (Decimal.natOfDigits digits, chars.dropWhile Decimal.isDigit)
      else if !name.isEmpty then some (value (.ofList name), chars.dropWhile isNameChar)
      else none

end

/-- What a formula comes to if names have values. -/
def evaluate? (value : String → Int) (formula : List Char) : Option Int :=
  match readLevel value (16 * (formula.length + 1)) levels formula with
  | some (n, rest) => if (skipBlanks rest).isEmpty then some n else none
  | none => none

end ClusterHealth.Rehearsal.Shell.Arithmetic
