import ClusterHealth.Text.Ranges

/-! White space, and texts without it at their ends. -/
namespace ClusterHealth.Text

/-- Characters with the property White_Space. -/
def blankRanges : List (Nat × Nat) := [
  (0x9, 0xd), (0x20, 0x20), (0x85, 0x85), (0xa0, 0xa0), (0x1680, 0x1680), (0x2000, 0x200a),
  (0x2028, 0x2029), (0x202f, 0x202f), (0x205f, 0x205f), (0x3000, 0x3000)]

def isBlank (c : Char) : Bool := inRanges blankRanges c

def trimBlankChars (chars : List Char) : List Char :=
  ((chars.dropWhile isBlank).reverse.dropWhile isBlank).reverse

/-- `text` without white space at either end. -/
def trim (text : String) : String := .ofList (trimBlankChars text.toList)

/-- `text` holds white space only. -/
def blank (text : String) : Bool := text.toList.all isBlank

end ClusterHealth.Text
