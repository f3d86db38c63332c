import ClusterHealth.Json.Document
import ClusterHealth.Text.Affix

/-!
Values of documents. An object has one value per key, in the order of its keys; of several members
with one key the last counts.
-/
namespace ClusterHealth

inductive Json.Number where
  | integer (value : Int)
  | float (value : Decimal.Binary64)
  deriving DecidableEq, Inhabited

inductive Json where
  | null
  | bool (value : Bool)
  | number (value : Json.Number)
  | string (text : String)
  | array (items : List Json)
  | object (fields : List (String × Json))
  deriving Inhabited

namespace Json
open Decimal (Binary64 isDigit digitValue)

/-- The code unit of four hexadecimal digits. -/
def codeUnit (a b c d : Char) : Nat :=
  [a, b, c, d].foldl (fun n x => n * 16 + (hexValue? x).getD 0) 0

def escapedChar : Char → Char
  | 'b' => '\x08'
  | 'f' => '\x0c'
  | 'n' => '\n'
  | 'r' => '\r'
  | 't' => '\t'
  | c => c

/-- Decodes the body of a text. A code unit of a surrogate pair needs the other one. -/
def decodeBody : List Char → Option (List Char)
  | [] => some []
  | '\\' :: 'u' :: a :: b :: c :: d :: rest =>
    let unit := codeUnit a b c d
    if 0xdc00 ≤ unit ∧ unit ≤ 0xdfff then none
    else if 0xd800 ≤ unit ∧ unit ≤ 0xdbff then
      match rest with
      | '\\' :: 'u' :: e :: f :: g :: h :: rest =>
        let low := codeUnit e f g h
        if 0xdc00 ≤ low ∧ low ≤ 0xdfff then
          (decodeBody rest).map
            (Char.ofNat (0x10000 + (unit - 0xd800) * 0x400 + (low - 0xdc00)) :: ·)
        else none
      | _ => none
    else (decodeBody rest).map (Char.ofNat unit :: ·)
  | '\\' :: c :: rest => (decodeBody rest).map (escapedChar c :: ·)
  | c :: rest => (decodeBody rest).map (c :: ·)

def decodeText? (body : List Char) : Option String := (decodeBody body).map String.ofList

/-- The largest integer that a number without sign can be. -/
def wholeBound : Nat := Nat.pow 2 64 - 1

/-- Digits gathered into an integer of 64 bits, and the power of ten that it is to be scaled by. -/
structure Significand where
  value : Nat
  power : Int
  full : Bool

/-- A digit of the whole part that no longer fits counts as a zero. -/
def Significand.addWhole (s : Significand) (digit : Nat) : Significand :=
  let next := s.value * 10 + digit
  if s.full || wholeBound < next then ⟨s.value, s.power + 1, true⟩ else ⟨next, s.power, false⟩

/-- A decimal place that no longer fits is dropped, and so are all after it. -/
def Significand.addPlace (s : Significand) (digit : Nat) : Significand :=
  let next := s.value * 10 + digit
  if s.full || wholeBound < next then ⟨s.value, s.power, true⟩ else ⟨next, s.power - 1, false⟩

/-- `x` scaled by a power of ten in steps of at most 308; `none` beyond the largest float. -/
def scaleFloat (x : Float) (power : Int) : Nat → Option Float
  | 0 => some x
  | steps + 1 =>
    if power.natAbs ≤ 308 then
      let factor := Float.ofScientific 1 false power.natAbs
      if 0 ≤ power then
        let y := x * factor
        if y.isInf then none else some y
      else some (x / factor)
    else if x == 0 then some x
    else if 0 ≤ power then none
    else scaleFloat (x / Float.ofScientific 1 false 308) (power + 308) steps

/-- The float of a significand: one multiplication or division by a power of ten. -/
def Significand.toFloat? (s : Significand) (negative : Bool) (power : Int) : Option Binary64 := do
  let magnitude ← scaleFloat (UInt64.ofNat s.value).toFloat (s.power + power) 5
  some (.ofFloat (if negative then -magnitude else magnitude))

/-- A power of ten that does not fit 32 bits makes a number zero or too large. -/
def powerBound : Nat := Nat.pow 2 31 - 1

/-- The number that a literal spells. Whole numbers keep their exact value while 64 bits hold it,
except for the negative zero. -/
def Number.ofLiteral? (literal : List Char) : Option Number := do
  let (negative, chars) := Decimal.takeSign literal
  let digits := chars.takeWhile isDigit
  let rest := chars.dropWhile isDigit
  let whole : Significand :=
    digits.foldl (fun s c => s.addWhole (digitValue c)) ⟨0, 0, false⟩
  let below := negative && (whole.value = 0 || Nat.pow 2 63 < whole.value)
  if rest.isEmpty && !whole.full && !below then
    return .integer (if negative then -(whole.value : Int) else whole.value)
  let (places, rest) := match rest with
    | '.' :: rest => (rest.takeWhile isDigit, rest.dropWhile isDigit)
    | rest => ([], rest)
  let start : Significand := { whole with full := false }
  let s : Significand := places.foldl (fun s c => s.addPlace (digitValue c)) start
  let power ← Decimal.readExponent? rest
  if powerBound < power.natAbs then
    if 0 < power && s.value ≠ 0 then none
    else return .float (.ofFloat (if negative then -0.0 else 0.0))
  else return .float (← s.toFloat? negative power)

/-- Puts a field in its place, over one of the same key. -/
def insertField (key : String) (value : α) : List (String × α) → List (String × α)
  | [] => [(key, value)]
  | (k, v) :: rest =>
    if key < k then (key, value) :: (k, v) :: rest
    else if key = k then (key, value) :: rest
    else (k, v) :: insertField key value rest

/-- An object with the given members. -/
def ofFields (members : List (String × Json)) : Json :=
  .object (members.foldl (fun fields (key, value) => insertField key value fields) [])

/-- `value` at the end of a path, whose parts stand between points. An empty part ends it early. -/
def nested (path : String) (value : Json) : Json :=
  ((Text.splitOn '.' path).takeWhile (!·.isEmpty)).foldr (fun key inner => .object [(key, inner)])
    value

/-- Containers may be nested this deep. -/
def depthBound : Nat := 127

mutual

def ofDocument? : Nat → Document → Option Json
  | _, .null => some .null
  | _, .bool value => some (.bool value)
  | _, .number literal => (Number.ofLiteral? literal).map .number
  | _, .string body => (decodeText? body).map .string
  | 0, .array _ | 0, .object _ => none
  | depth + 1, .array items => (ofItems? depth items).map .array
  | depth + 1, .object members => (ofMembers? depth members).map ofFields

def ofItems? : Nat → List Document → Option (List Json)
  | _, [] => some []
  | depth, item :: rest => do
    let value ← ofDocument? depth item
    (ofItems? depth rest).map (value :: ·)

def ofMembers? : Nat → List (List Char × Document) → Option (List (String × Json))
  | _, [] => some []
  | depth, (key, item) :: rest => do
    let key ← decodeText? key
    let value ← ofDocument? depth item
    (ofMembers? depth rest).map ((key, value) :: ·)

end

/-- The value of the document that `text` spells. -/
def parse? (text : String) : Option Json := do
  ofDocument? depthBound (← Document.parse? text)

/-- The field of an object; nothing else has fields. -/
def field? (key : String) : Json → Option Json
  | .object fields => (fields.find? (·.1 == key)).map (·.2)
  | _ => none

def string? : Json → Option String
  | .string text => some text
  | _ => none

theorem string?_eq_some {json : Json} {text : String} :
    json.string? = some text ↔ json = .string text := by
  cases json <;> simp [string?]

def array? : Json → Option (List Json)
  | .array items => some items
  | _ => none

def object? : Json → Option (List (String × Json))
  | .object fields => some fields
  | _ => none

def isNull : Json → Bool
  | .null => true
  | _ => false

def isObject : Json → Bool
  | .object _ => true
  | _ => false

def ofInt (n : Int) : Json := .number (.integer n)

def ofNat (n : Nat) : Json := ofInt n

/-- A number that is not finite has no place in a document. -/
def ofBinary64 (x : Binary64) : Json := if x.isFinite then .number (.float x) else .null

end Json
end ClusterHealth
