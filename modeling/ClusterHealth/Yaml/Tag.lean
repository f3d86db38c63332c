import ClusterHealth.Json.Document
import ClusterHealth.Text.Utf8

/-!
Texts of tags. A percent sign and two digits stand for a byte, and such bytes follow each other
until they make up a character.
-/
namespace ClusterHealth.Yaml
open Text (Bytes)

def isNameChar (c : Char) : Bool := c.isAlphanum || c == '-' || c == '_'

def isTagChar (c : Char) : Bool :=
  isNameChar c || ";/?:@&=+$.!~*'()%".toList.contains c

def isTagUriChar (c : Char) : Bool := isTagChar c || c == ',' || c == '[' || c == ']'

/-- A character of a tag as it is written, or a byte spelled by number. -/
inductive TagUnit where
  | written (c : Char)
  | byte (value : UInt8)
  deriving DecidableEq

def tagUnits : List Char → Option (List TagUnit)
  | [] => some []
  | '%' :: a :: b :: rest => do
    let value := (← Json.hexValue? a) * 16 + (← Json.hexValue? b)
    (tagUnits rest).map (.byte (UInt8.ofNat value) :: ·)
  | '%' :: _ => none
  | c :: rest => (tagUnits rest).map (.written c :: ·)

/-- How many bytes follow a leading one. -/
def trailingBytes? (lead : UInt8) : Option Nat :=
  if lead < 0x80 then some 0
  else if lead < 0xc0 then none
  else if lead < 0xe0 then some 1
  else if lead < 0xf0 then some 2
  else if lead < 0xf8 then some 3
  else none

/-- Stands in a tag for bytes that spell no character. -/
def brokenChar : Char := '\x00'

/-- The characters of a tag. `begun` holds the bytes of a character of which `due` are missing. A
zero byte cuts off what is behind it. -/
def tagChars (due : Nat) (begun : Bytes) : List TagUnit → Option (List Char)
  | [] => if due = 0 then some [] else none
  | .written c :: rest => if due = 0 then (tagChars 0 [] rest).map (c :: ·) else none
  | .byte value :: rest => do
    let due ← if due = 0 then trailingBytes? value
      else if 0x80 ≤ value ∧ value < 0xc0 then some (due - 1) else none
    let bytes := begun ++ [value]
    if due ≠ 0 then tagChars due bytes rest
    else
      let more ← tagChars 0 [] rest
      if bytes = [0] then some []
      else some (((Text.decodeUtf8? bytes).map String.toList).getD [brokenChar] ++ more)

def tagText? (chars : List Char) : Option String := do
  some (.ofList (← tagChars 0 [] (← tagUnits chars)))

/-- The name that a tag of the document's own gives to a value. -/
def ownName? (tag : String) : Option String :=
  match tag.toList with
  | ['!'] => some tag
  | '!' :: name => if name.contains brokenChar then none else some (.ofList name)
  | _ => none

end ClusterHealth.Yaml
