import ClusterHealth.Json.Document

/-!
Network addresses with a port, as text. Addresses of four numbers are written with points, those of
eight with colons and, next to a port, in brackets.
-/
namespace ClusterHealth

inductive IpAddress where
  | v4 (a b c d : UInt8)
  /-- Eight groups. -/
  | v6 (groups : List UInt16)
  deriving DecidableEq

inductive SocketAddress where
  | v4 (a b c d : UInt8) (port : UInt16)
  | v6 (groups : List UInt16) (scope : UInt32) (port : UInt16)
  deriving DecidableEq

namespace SocketAddress
open Decimal (isDigit natOfDigits)

/-- A value and the characters behind what it was read from. -/
abbrev Scanned (α : Type) := α × List Char

def scanChar (c : Char) : List Char → Option (List Char)
  | d :: rest => if c = d then some rest else none
  | [] => none

/-- Takes decimal digits whose value is at most `bound`. -/
def scanDecimal (bound : Nat) (chars : List Char) : Option (Scanned Nat) :=
  let digits := chars.takeWhile isDigit
  if digits.isEmpty || bound < natOfDigits digits then none
  else some (natOfDigits digits, chars.dropWhile isDigit)

/-- Takes one of the four numbers: no zero leads it. -/
def scanOctet (chars : List Char) : Option (Scanned UInt8) :=
  let digits := chars.takeWhile isDigit
  if digits.head? = some '0' ∧ 1 < digits.length then none
  else (scanDecimal 255 chars).map fun (n, rest) => (.ofNat n, rest)

def scanV4 (chars : List Char) : Option (Scanned (UInt8 × UInt8 × UInt8 × UInt8)) := do
  let (a, rest) ← scanOctet chars
  let (b, rest) ← scanOctet (← scanChar '.' rest)
  let (c, rest) ← scanOctet (← scanChar '.' rest)
  let (d, rest) ← scanOctet (← scanChar '.' rest)
  some ((a, b, c, d), rest)

/-- Takes a group: up to four hexadecimal digits. -/
def scanGroup (chars : List Char) : Option (Scanned UInt16) :=
  let digits := chars.takeWhile Json.isHex
  if digits.isEmpty || 4 < digits.length then none
  else
    let value := digits.foldl (fun n c => n * 16 + (Json.hexValue? c).getD 0) 0
    some (.ofNat value, chars.dropWhile Json.isHex)

/-- Two octets in one group. -/
def pair (high low : UInt8) : UInt16 := .ofNat (high.toNat * 256 + low.toNat)

/-- Every group but the first has a colon before it. -/
def scanColon (first : Bool) (chars : List Char) : Option (List Char) :=
  if first then some chars else scanChar ':' chars

/-- Takes as many groups as there are, up to `limit`. An address of four numbers may stand for the
last two; says whether there was one. -/
def scanGroups : Nat → Bool → List Char → List UInt16 × Bool × List Char
  | 0, _, chars => ([], false, chars)
  | limit + 1, first, chars =>
    match if limit = 0 then none else (scanColon first chars).bind scanV4 with
    | some ((a, b, c, d), rest) => ([pair a b, pair c d], true, rest)
    | none =>
      match (scanColon first chars).bind scanGroup with
      | none => ([], false, chars)
      | some (group, rest) =>
        let (groups, embedded, rest) := scanGroups limit false rest
        (group :: groups, embedded, rest)

/-- Takes eight groups. Two colons stand for a run of groups that are zero. -/
def scanV6 (chars : List Char) : Option (Scanned (List UInt16)) := do
  let (head, embedded, rest) := scanGroups 8 true chars
  if head.length = 8 then return (head, rest)
  if embedded then none
  let rest ← scanChar ':' (← scanChar ':' rest)
  let (tail, _, rest) := scanGroups (7 - head.length) true rest
  return (head ++ List.replicate (8 - head.length - tail.length) 0 ++ tail, rest)

def scanPort (chars : List Char) : Option (Scanned UInt16) := do
  let (n, rest) ← scanDecimal 65535 (← scanChar ':' chars)
  some (.ofNat n, rest)

/-- Takes the zone of an address, which may be left out. -/
def scanScope (chars : List Char) : Option (Scanned UInt32) :=
  match chars with
  | '%' :: rest => (scanDecimal (Nat.pow 2 32 - 1) rest).map fun (n, rest) => (.ofNat n, rest)
  | chars => some (0, chars)

def scanV4Socket (chars : List Char) : Option (Scanned SocketAddress) := do
  let ((a, b, c, d), rest) ← scanV4 chars
  let (port, rest) ← scanPort rest
  some (.v4 a b c d port, rest)

def scanV6Socket (chars : List Char) : Option (Scanned SocketAddress) := do
  let (groups, rest) ← scanV6 (← scanChar '[' chars)
  let (scope, rest) ← scanScope rest
  let (port, rest) ← scanPort (← scanChar ']' rest)
  some (.v6 groups scope port, rest)

/-- What was read, if nothing is left. -/
def whole (scan : Option (Scanned α)) : Option α :=
  match scan with
  | some (value, []) => some value
  | _ => none

def parse? (text : String) : Option SocketAddress :=
  whole (scanV4Socket text.toList <|> scanV6Socket text.toList)

end SocketAddress

/-- An address without a port. -/
def IpAddress.parse? (text : String) : Option IpAddress :=
  let v4 := (SocketAddress.scanV4 text.toList).map fun ((a, b, c, d), rest) =>
    (IpAddress.v4 a b c d, rest)
  let v6 := (SocketAddress.scanV6 text.toList).map fun (groups, rest) =>
    (IpAddress.v6 groups, rest)
  SocketAddress.whole (v4 <|> v6)

namespace IpAddress

def dotted (a b c d : UInt8) : String := s!"{a.toNat}.{b.toNat}.{c.toNat}.{d.toNat}"

def groupText (group : UInt16) : String := .ofList (Nat.toDigits 16 group.toNat)

def groupsText (groups : List UInt16) : String := ":".intercalate (groups.map groupText)

/-- Length of the run of zeros that `groups` begin with. -/
def zeroRun (groups : List UInt16) : Nat := (groups.takeWhile (· == 0)).length

/-- Length of the longest run of zeros. -/
def longestRun : List UInt16 → Nat
  | [] => 0
  | group :: rest => max (zeroRun (group :: rest)) (longestRun rest)

/-- What stands before the first run of `length` zeros, and what behind it. -/
def splitRun (length : Nat) : List UInt16 → List UInt16 × List UInt16
  | [] => ([], [])
  | group :: rest =>
    if zeroRun (group :: rest) = length then ([], (group :: rest).drop length)
    else
      let (before, behind) := splitRun length rest
      (group :: before, behind)

def v6Text (groups : List UInt16) : String :=
  match groups with
  | [0, 0, 0, 0, 0, 0xffff, high, low] =>
    "::ffff:" ++ dotted (.ofNat (high.toNat / 256)) (.ofNat high.toNat)
      (.ofNat (low.toNat / 256)) (.ofNat low.toNat)
  | groups =>
    let run := longestRun groups
    if run ≤ 1 then groupsText groups
    else
      let (before, behind) := splitRun run groups
      groupsText before ++ "::" ++ groupsText behind

end IpAddress

/-- Small letters, no leading zeros, and two colons for the longest run of zeros. -/
def SocketAddress.text : SocketAddress → String
  | .v4 a b c d port => s!"{IpAddress.dotted a b c d}:{port.toNat}"
  | .v6 groups scope port =>
    let zone := if scope = 0 then "" else s!"%{scope.toNat}"
    s!"[{IpAddress.v6Text groups}{zone}]:{port.toNat}"

end ClusterHealth
