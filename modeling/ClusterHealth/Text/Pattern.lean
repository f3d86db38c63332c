import ClusterHealth.Decimal.Reading

/-!
Patterns of texts: sets of characters, each with a count, and the two ends of a text. A pattern is
written as a text itself, in which some characters are marks; behind a backslash a mark stands for
itself.
-/
namespace ClusterHealth.Text

namespace Pattern

/-- A part of a pattern. -/
inductive Item where
  /-- Nothing stands before this place. -/
  | start
  /-- Nothing stands behind this place. -/
  | stop
  /-- Exactly `count` characters, each in one of the ranges. -/
  | run (ranges : List (Char × Char)) (count : Nat)
  deriving DecidableEq

end Pattern

abbrev Pattern := List Pattern.Item

namespace Pattern
open Decimal (isDigit natOfDigits)

def isMark (c : Char) : Bool := "\\.+*?()|[]\x7b\x7d^$#&-~".toList.contains c

def escapeChar (c : Char) : List Char := if isMark c then ['\\', c] else [c]

/-- The pattern that stands for exactly the characters of `text`. -/
def escape (text : String) : String := .ofList (text.toList.flatMap escapeChar)

/-- Takes the ranges of a set and its closing bracket. -/
def readRanges : List Char → Option (List (Char × Char) × List Char)
  | ']' :: rest => some ([], rest)
  | low :: '-' :: high :: rest =>
    if isMark low || isMark high || high < low then none
    else (readRanges rest).map fun (ranges, rest) => ((low, high) :: ranges, rest)
  | c :: rest =>
    if isMark c then none
    else (readRanges rest).map fun (ranges, rest) => ((c, c) :: ranges, rest)
  | [] => none

/-- Takes a set, or a character on its own. -/
def readSet : List Char → Option (List (Char × Char) × List Char)
  | '[' :: rest => readRanges rest
  | '\\' :: c :: rest => if isMark c then some ([(c, c)], rest) else none
  | c :: rest => if isMark c then none else some ([(c, c)], rest)
  | [] => none

/-- Takes a count in braces; without one it is one. -/
def readCount : List Char → Option (Nat × List Char)
  | '\x7b' :: rest =>
    match rest.takeWhile isDigit, rest.dropWhile isDigit with
    | [], _ => none
    | digits, '\x7d' :: rest => some (natOfDigits digits, rest)
    | _, _ => none
  | chars => some (1, chars)

def readItem : List Char → Option (Item × List Char)
  | '^' :: rest => some (.start, rest)
  | '$' :: rest => some (.stop, rest)
  | chars => do
    let (ranges, rest) ← readSet chars
    let (count, rest) ← readCount rest
    some (.run ranges count, rest)

/-- Takes items to the end; every item spends one unit of fuel. -/
def readItems : Nat → List Char → Option Pattern
  | _, [] => some []
  | 0, _ :: _ => none
  | fuel + 1, chars => do
    let (item, rest) ← readItem chars
    (readItems fuel rest).map (item :: ·)

/-- The pattern that `text` spells. Marks with any other meaning are not read. -/
def parse? (text : String) : Option Pattern := readItems text.toList.length text.toList

def inSet (ranges : List (Char × Char)) (c : Char) : Bool :=
  ranges.any fun (low, high) => low ≤ c && c ≤ high

/-- Whether a pattern matches the beginning of `text`; `inside` says that something stands before
it. -/
def matchesHere (inside : Bool) : Pattern → List Char → Bool
  | [], _ => true
  | .start :: items, text => !inside && matchesHere inside items text
  | .stop :: items, text => text.isEmpty && matchesHere inside items text
  | .run ranges count :: items, text =>
    (text.take count).length == count && (text.take count).all (inSet ranges) &&
      matchesHere (inside || count != 0) items (text.drop count)

/-- Whether a pattern matches somewhere in `text`. -/
def occurs (p : Pattern) (inside : Bool) : List Char → Bool
  | [] => p.matchesHere inside []
  | c :: rest => p.matchesHere inside (c :: rest) || occurs p true rest

def occursIn (p : Pattern) (text : String) : Bool := occurs p false text.toList

end Pattern
end ClusterHealth.Text
