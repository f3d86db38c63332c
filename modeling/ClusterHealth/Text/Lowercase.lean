import ClusterHealth.Text.LetterCase

/-!
Lower case of a text. A capital sigma that ends a word, one that has a letter before it and none
after it, becomes the final form; every other character goes its own way.
-/
namespace ClusterHealth.Text

/-- The nearest character that is not passed over has a case. -/
def nextIsCased (chars : List Char) : Bool :=
  match chars.dropWhile (inRanges caseIgnorableRanges) with
  | c :: _ => inRanges casedRanges c
  | [] => false

/-- Lower case of `rest`, where `before` holds the characters in front of it, nearest first. -/
def lowercaseFrom (before : List Char) : List Char → List Char
  | [] => []
  | c :: rest =>
    let lowered :=
      if c.toNat = 0x3a3 then
        [Char.ofNat (if nextIsCased before && !nextIsCased rest then 0x3c2 else 0x3c3)]
      else lowercaseChar c
    lowered ++ lowercaseFrom (c :: before) rest

def lowercase (text : String) : String := .ofList (lowercaseFrom [] text.toList)

end ClusterHealth.Text
