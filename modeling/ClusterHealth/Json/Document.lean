import ClusterHealth.Decimal.Reading

/-!
Documents as they are written. Numbers and texts keep their spelling, because a reader that passes
over a part of a document does not decode it: only its shape has to be right.
-/
namespace ClusterHealth.Json
open ClusterHealth.Decimal (isDigit)

inductive Document where
  | null
  | bool (value : Bool)
  | number (literal : List Char)
  /-- The characters between the quotes, escapes included. -/
  | string (body : List Char)
  | array (items : List Document)
  | object (members : List (List Char × Document))
  deriving Inhabited

def isSpace (c : Char) : Bool := c == ' ' || c == '\t' || c == '\n' || c == '\r'

def skipSpace (chars : List Char) : List Char := chars.dropWhile isSpace

def hexValue? (c : Char) : Option Nat :=
  if isDigit c then some (c.toNat - '0'.toNat)
  else if 'a' ≤ c ∧ c ≤ 'f' then some (c.toNat - 'a'.toNat + 10)
  else if 'A' ≤ c ∧ c ≤ 'F' then some (c.toNat - 'A'.toNat + 10)
  else none

def isHex (c : Char) : Bool := (hexValue? c).isSome

/-- Characters that may follow a backslash, other than the `u` of a code unit. -/
def isEscape (c : Char) : Bool :=
  c == '"' || c == '\\' || c == '/' || c == 'b' || c == 'f' || c == 'n' || c == 'r' || c == 't'

/-- Cuts off the body of a text, up to its closing quote. -/
def scanString : List Char → Option (List Char × List Char)
  | [] => none
  | '"' :: rest => some ([], rest)
  | '\\' :: 'u' :: a :: b :: c :: d :: rest =>
    if isHex a && isHex b && isHex c && isHex d then
      (scanString rest).map fun (body, rest) => ('\\' :: 'u' :: a :: b :: c :: d :: body, rest)
    else none
  | '\\' :: c :: rest =>
    if isEscape c then (scanString rest).map fun (body, rest) => ('\\' :: c :: body, rest)
    else none
  | c :: rest =>
    if c == '\\' || c.toNat < 0x20 then none
    else (scanString rest).map fun (body, rest) => (c :: body, rest)

/-- Cuts off at least one digit. -/
def scanDigits (chars : List Char) : Option (List Char × List Char) :=
  match chars.takeWhile isDigit with
  | [] => none
  | digits => some (digits, chars.dropWhile isDigit)

/-- Whole part of a number: no digit follows a leading zero. -/
def scanWhole (chars : List Char) : Option (List Char × List Char) := do
  let (digits, rest) ← scanDigits chars
  if digits.head? = some '0' ∧ digits ≠ ['0'] then none else some (digits, rest)

def scanPlaces : List Char → Option (List Char × List Char)
  | '.' :: rest => (scanDigits rest).map fun (digits, rest) => ('.' :: digits, rest)
  | chars => some ([], chars)

def scanPower : List Char → Option (List Char × List Char)
  | c :: rest =>
    if c == 'e' || c == 'E' then
      match rest with
      | '+' :: more => (scanDigits more).map fun (digits, more) => (c :: '+' :: digits, more)
      | '-' :: more => (scanDigits more).map fun (digits, more) => (c :: '-' :: digits, more)
      | _ => (scanDigits rest).map fun (digits, more) => (c :: digits, more)
    else some ([], c :: rest)
  | [] => some ([], [])

def scanUnsigned (chars : List Char) : Option (List Char × List Char) := do
  let (whole, rest) ← scanWhole chars
  let (places, rest) ← scanPlaces rest
  let (power, rest) ← scanPower rest
  some (whole ++ places ++ power, rest)

def scanNumber : List Char → Option (List Char × List Char)
  | '-' :: rest => (scanUnsigned rest).map fun (literal, rest) => ('-' :: literal, rest)
  | chars => scanUnsigned chars

mutual

/-- Reads one value; every nested call spends one unit of fuel. -/
def readValue : Nat → List Char → Option (Document × List Char)
  | 0, _ => none
  | fuel + 1, chars =>
    match skipSpace chars with
    | 'n' :: 'u' :: 'l' :: 'l' :: rest => some (.null, rest)
    | 't' :: 'r' :: 'u' :: 'e' :: rest => some (.bool true, rest)
    | 'f' :: 'a' :: 'l' :: 's' :: 'e' :: rest => some (.bool false, rest)
    | '"' :: rest => (scanString rest).map fun (body, rest) => (.string body, rest)
    | '[' :: rest =>
      match skipSpace rest with
      | ']' :: rest => some (.array [], rest)
      | rest => (readItems fuel rest).map fun (items, rest) => (.array items, rest)
    | '\x7b' :: rest =>
      match skipSpace rest with
      | '\x7d' :: rest => some (.object [], rest)
      | rest => (readMembers fuel rest).map fun (members, rest) => (.object members, rest)
    | chars => (scanNumber chars).map fun (literal, rest) => (.number literal, rest)

/-- Reads the items of an array that has some, and its closing bracket. -/
def readItems : Nat → List Char → Option (List Document × List Char)
  | 0, _ => none
  | fuel + 1, chars => do
    let (item, rest) ← readValue fuel chars
    match skipSpace rest with
    | ']' :: rest => some ([item], rest)
    | ',' :: rest => (readItems fuel rest).map fun (items, rest) => (item :: items, rest)
    | _ => none

/-- Reads the members of an object that has some, and its closing brace. -/
def readMembers : Nat → List Char → Option (List (List Char × Document) × List Char)
  | 0, _ => none
  | fuel + 1, chars =>
    match skipSpace chars with
    | '"' :: rest => do
      let (key, rest) ← scanString rest
      match skipSpace rest with
      | ':' :: rest => do
        let (item, rest) ← readValue fuel rest
        match skipSpace rest with
        | '\x7d' :: rest => some ([(key, item)], rest)
        | ',' :: rest =>
          (readMembers fuel rest).map fun (members, rest) => ((key, item) :: members, rest)
        | _ => none
      | _ => none
    | _ => none

end

/-- The document that `text` spells, with nothing but space around it. -/
def Document.parse? (text : String) : Option Document := do
  let chars := text.toList
  let (document, rest) ← readValue (2 * chars.length + 2) chars
  if (skipSpace rest).isEmpty then some document else none

end ClusterHealth.Json
