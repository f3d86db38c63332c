import ClusterHealth.Decimal.Binary64

/-! Decimal literals: digits with an optional point and an optional power of ten. -/
namespace ClusterHealth.Decimal

def isDigit (c : Char) : Bool := '0' ≤ c && c ≤ '9'

def digitValue (c : Char) : Nat := c.toNat - '0'.toNat

/-- The number that decimal digits spell. -/
def natOfDigits (digits : List Char) : Nat :=
  digits.foldl (fun n c => n * 10 + digitValue c) 0

/-- A sign, and what follows it. -/
def takeSign : List Char → Bool × List Char
  | '-' :: rest => (true, rest)
  | '+' :: rest => (false, rest)
  | chars => (false, chars)

/-- A whole number in decimal digits, after an optional sign. -/
def readInt? (chars : List Char) : Option Int :=
  let (negative, digits) := takeSign chars
  if digits.isEmpty || !digits.all isDigit then none
  else some (if negative then -(natOfDigits digits : Int) else natOfDigits digits)

/-- A power of ten: `e` or `E`, then a whole number. -/
def readExponent? : List Char → Option Int
  | [] => some 0
  | c :: rest => if c == 'e' || c == 'E' then readInt? rest else none

/-- Exponents beyond this give zero or infinity whatever the digits are. -/
def exponentBound : Nat := 400

/-- The number that a decimal literal spells. An empty side of the point is allowed if the
other side has digits. -/
def readUnsigned? (negative : Bool) (chars : List Char) : Option Binary64 := do
  let whole := chars.takeWhile isDigit
  let rest := chars.dropWhile isDigit
  let (places, rest) := match rest with
    | '.' :: rest => (rest.takeWhile isDigit, rest.dropWhile isDigit)
    | rest => ([], rest)
  if whole.isEmpty && places.isEmpty then none
  let power ← readExponent? rest
  let digits := natOfDigits (whole ++ places)
  let room : Int := exponentBound + whole.length + places.length
  let power := max (-room) (min room power)
  some (.ofDecimal negative digits (power - places.length))

/-- Infinities and the undefined number may be spelled in letters of either case. -/
def readFloat? (text : String) : Option Binary64 :=
  let (negative, chars) := takeSign text.toList
  match String.ofList (chars.map Char.toLower) with
  | "inf" | "infinity" => some (.ofFloat (if negative then -(1 / 0) else 1 / 0))
  | "nan" => some (.ofFloat (0 / 0))
  | _ => readUnsigned? negative chars

end ClusterHealth.Decimal
