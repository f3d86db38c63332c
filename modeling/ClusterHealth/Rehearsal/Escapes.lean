import ClusterHealth.Json.Document
import ClusterHealth.Text.Utf8

/-! Characters that programs write for a backslash and what follows it. -/
namespace ClusterHealth.Rehearsal
open Text (Bytes)

/-- Which escapes a program knows. -/
structure Dialect where
  /-- A zero may stand before the three octal digits of a byte. -/
  zeroLed : Bool
  /-- Bytes may be spelled in hexadecimal digits. -/
  hexadecimal : Bool
  deriving DecidableEq

namespace Dialect

/-- That of programs that print text. -/
def text : Dialect := ⟨true, true⟩

/-- That of a format. -/
def format : Dialect := ⟨false, true⟩

/-- A shell's own printing has no hexadecimal digits. -/
def shell (d : Dialect) : Dialect := { d with hexadecimal := false }

end Dialect

namespace Escape

def isOctal (c : Char) : Bool := '0' ≤ c && c ≤ '7'

/-- The byte that digits spell in a base. -/
def byteOf (base : Nat) (digits : List Char) : UInt8 :=
  .ofNat (digits.foldl (fun n c => n * base + (Json.hexValue? c).getD 0) 0)

/-- Up to `count` characters of a class, and the rest. -/
def take (class? : Char → Bool) (count : Nat) (chars : List Char) : List Char × List Char :=
  let taken := (chars.take count).takeWhile class?
  (taken, chars.drop taken.length)

def letter? : Char → Option UInt8
  | 'a' => some 0x07
  | 'b' => some 0x08
  | 'e' => some 0x1b
  | 'f' => some 0x0c
  | 'n' => some 0x0a
  | 'r' => some 0x0d
  | 't' => some 0x09
  | 'v' => some 0x0b
  | '\\' => some 0x5c
  | _ => none

/-- Reads behind a backslash. -/
def read? (d : Dialect) (chars : List Char) : Option (UInt8 × List Char) :=
  match chars with
  | [] => none
  | 'x' :: rest =>
    match if d.hexadecimal then take Json.isHex 2 rest else ([], rest) with
    | ([], _) => none
    | (digits, rest) => some (byteOf 16 digits, rest)
  | '"' :: rest => if d = .format then some (0x22, rest) else none
  | c :: rest =>
    if isOctal c then
      let start := if c = '0' && d.zeroLed then rest else c :: rest
      let (digits, rest) := take isOctal 3 start
      some (byteOf 8 digits, rest)
    else (letter? c).map fun b => (b, rest)

/-- What a text with escapes stands for, and whether one of them ends all output. Reading a
character spends one unit of fuel. -/
def decode (d : Dialect) : Nat → List Char → Bytes × Bool
  | 0, _ | _, [] => ([], false)
  | _, '\\' :: 'c' :: _ => ([], true)
  | fuel + 1, c :: rest =>
    let (bytes, rest) := match if c = '\\' then read? d rest else none with
      | some (byte, rest) => ([byte], rest)
      | none => (String.utf8EncodeChar c, rest)
    let (others, ended) := decode d fuel rest
    (bytes ++ others, ended)

end Escape

/-- What a text with escapes stands for. -/
def unescape (d : Dialect) (text : String) : Bytes × Bool :=
  Escape.decode d text.length text.toList

end ClusterHealth.Rehearsal
