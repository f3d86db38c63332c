/-! Beginnings and ends of texts, compared character by character. -/
namespace ClusterHealth.Text

def startsWith (text start : String) : Bool :=
  start.toList.isPrefixOf text.toList

/-- What follows `start` in `text`. -/
def after? (text start : String) : Option String :=
  (start.toList.isPrefixOf? text.toList).map String.ofList

/-- Drops every trailing `c`. -/
def trimEnd (c : Char) (text : String) : String :=
  .ofList (text.toList.reverse.dropWhile (· == c)).reverse

/-- Drops every leading `c`. -/
def trimStart (c : Char) (text : String) : String :=
  .ofList (text.toList.dropWhile (· == c))

/-- The first characters of a text, `count` bytes in all. -/
def takeBytes? : Nat → List Char → Option (List Char)
  | 0, _ => some []
  | _, [] => none
  | count, c :: rest =>
    if c.utf8Size ≤ count then (takeBytes? (count - c.utf8Size) rest).map (c :: ·) else none

/-- The parts of `chars` between the characters that `cut` selects; never empty. -/
def splitWhere (cut : Char → Bool) : List Char → List (List Char)
  | [] => [[]]
  | c :: rest =>
    match splitWhere cut rest with
    | [] => [[c]]
    | part :: parts => if cut c then [] :: part :: parts else (c :: part) :: parts

/-- The parts of `text` between occurrences of `c`. -/
def splitOn (c : Char) (text : String) : List String :=
  (splitWhere (· == c) text.toList).map String.ofList

/-- Letters of the English alphabet become small; every other character stays. -/
def lowerAscii (text : String) : String :=
  .ofList (text.toList.map Char.toLower)

end ClusterHealth.Text
