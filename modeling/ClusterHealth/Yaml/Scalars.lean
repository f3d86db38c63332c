import ClusterHealth.Json.Value
import ClusterHealth.Text.Affix
import ClusterHealth.Yaml.Node

/-!
What documents mean. A plain scalar without tag stands for null, a truth value or a number if it is
spelled like one, and for its text otherwise.
-/
namespace ClusterHealth.Yaml
open Decimal (Binary64 isDigit)

def isNull (text : String) : Bool :=
  text == "null" || text == "Null" || text == "NULL" || text == "~"

def readBool? : String → Option Bool
  | "true" | "True" | "TRUE" => some true
  | "false" | "False" | "FALSE" => some false
  | _ => none

/-- The number that digits of base 2, 8 or 16 spell. -/
def natOfBase? (base : Nat) (digits : List Char) : Option Nat :=
  if digits.isEmpty then none
  else digits.foldlM (fun n c => do
    let value ← Json.hexValue? c
    if value < base then some (n * base + value) else none) 0

/-- A number in base 2, 8 or 16, with the letter that announces it. -/
def readBased? : List Char → Option Nat
  | '0' :: 'x' :: digits => natOfBase? 16 digits
  | '0' :: 'o' :: digits => natOfBase? 8 digits
  | '0' :: 'b' :: digits => natOfBase? 2 digits
  | _ => none

/-- More than one digit of which the first is a zero: such a scalar is no number. -/
def isPaddedZero (digits : List Char) : Bool :=
  1 < digits.length && digits.head? == some '0' && digits.all isDigit

def readDecimal? (digits : List Char) : Option Nat :=
  if digits.isEmpty || !digits.all isDigit || isPaddedZero digits then none
  else some (Decimal.natOfDigits digits)

def readNat? (digits : List Char) : Option Nat := readBased? digits <|> readDecimal? digits

/-- Integers of 128 bits at most. -/
def readInt? (chars : List Char) : Option Int := do
  let (negative, digits) := Decimal.takeSign chars
  let n ← readNat? digits
  if negative then if n ≤ Nat.pow 2 127 then some (-(n : Int)) else none
  else if n < Nat.pow 2 128 then some n else none

def infinity (negative : Bool) : Binary64 := .ofFloat (if negative then -(1 / 0) else 1 / 0)

/-- Finite numbers, and the names of infinity and of the undefined number. -/
def readFloat? (text : String) : Option Binary64 :=
  match text with
  | ".inf" | ".Inf" | ".INF" | "+.inf" | "+.Inf" | "+.INF" => some (infinity false)
  | "-.inf" | "-.Inf" | "-.INF" => some (infinity true)
  | ".nan" | ".NaN" | ".NAN" => some (.ofFloat (0 / 0))
  | _ => (Decimal.readFloat? text).filter (·.isFinite)

/-- The value of a plain scalar without tag. -/
def plainValue (text : String) : Json :=
  if text.isEmpty || isNull text then .null
  else
    let chars := text.toList
    match readBool? text, readInt? chars with
    | some value, _ => .bool value
    | none, some n => .ofInt n
    | none, none =>
      if isPaddedZero (Decimal.takeSign chars).2 then .string text
      else
        match readFloat? text with
        | some x => .number (.float x)
        | none => .string text

/-- A scalar by itself: only a plain one can stand for something else than its text. -/
def untaggedValue (style : ScalarStyle) (text : String) : Json :=
  if style = .plain then plainValue text else .string text

/-- The value of a scalar with a tag. A tag of the document's own says nothing about it. -/
def scalarValue? (tag : Option String) (style : ScalarStyle) (text : String) : Option Json :=
  match tag with
  | none => some (untaggedValue style text)
  | some "tag:yaml.org,2002:bool" => (readBool? text).map .bool
  | some "tag:yaml.org,2002:int" => (readInt? text.toList).map .ofInt
  | some "tag:yaml.org,2002:float" => (readFloat? text).map fun x => .number (.float x)
  | some "tag:yaml.org,2002:null" => if isNull text then some .null else none
  | some tag =>
    some (if Text.startsWith tag "!" then untaggedValue style text else .string text)

/-- A tag of the document's own is the name of a value: an object with nothing but that value. -/
def named (tag : Option String) (value : Json) : Json :=
  match tag.bind ownName? with
  | some name => Json.nested name value
  | none => value

namespace Node

/-- The text of a scalar, whatever it means. -/
def text? : Node → Option String
  | .scalar _ _ text => some text
  | _ => none

/-- A truth value, which has to be plain or to be marked as one. -/
def bool? : Node → Option Bool
  | .scalar tag style text =>
    if style = .plain || (style = .literal && tag = some "tag:yaml.org,2002:bool") then
      readBool? text
    else none
  | _ => none

/-- An integer from zero to `bound`, which has to be plain or to be marked as one. -/
def nat? (bound : Nat) : Node → Option Nat
  | .scalar tag style text =>
    if style = .plain || (style = .literal && tag = some "tag:yaml.org,2002:int") then
      match Decimal.takeSign text.toList with
      | (false, digits) => (readNat? digits).filter (· ≤ bound)
      | (true, _) => none
    else none
  | _ => none

/-- A text that may be left out: a plain scalar that means null is none. -/
def optionalText? : Node → Option (Option String)
  | .scalar tag style text =>
    if style = .plain then
      match tag with
      | none => some (if text.isEmpty || isNull text then none else some text)
      | some "tag:yaml.org,2002:null" => if isNull text then some none else none
      | some _ => some (some text)
    else some (some text)
  | _ => none

/-- The entries of a mapping; a plain scalar without text counts as a mapping without any. -/
def entries? : Node → Option (List (Node × Node))
  | .mapping _ entries => some entries
  | .scalar _ style text => if style = .plain ∧ text.isEmpty then some [] else none
  | _ => none

/-- The items of a sequence; a plain scalar without text counts as a sequence without any. -/
def items? : Node → Option (List Node)
  | .sequence _ items => some items
  | .scalar _ style text => if style = .plain ∧ text.isEmpty then some [] else none
  | _ => none

end Node

/-- Reading of values, with the number of references that may still be followed. -/
abbrev Following := StateT Nat Option

namespace Document

/-- Follows a reference. -/
def follow (d : Document) (node : Node) : Following Node := fun left =>
  match node, left with
  | .reference _, 0 => none
  | .reference _, left + 1 => some (d.resolve node, left)
  | node, left => some (node, left)

def keyText? (d : Document) (key : Node) : Following String := do
  StateT.lift (← d.follow key).text?

/-- The value of a tree in which collections are nested by at most `depth`. Keys stand for their
texts. -/
def value? (d : Document) (depth : Nat) (node : Node) : Following Json := do
  match ← d.follow node with
  | .scalar tag style text => return named tag (← StateT.lift (scalarValue? tag style text))
  | .sequence tag items =>
    match depth with
    | 0 => failure
    | depth + 1 => return named tag (.array (← items.mapM (value? d depth)))
  | .mapping tag entries =>
    match depth with
    | 0 => failure
    | depth + 1 =>
      return named tag (.ofFields (← entries.mapM fun (key, item) => do
        return (← d.keyText? key, ← value? d depth item)))
  | .reference _ => failure

/-- Collections may be nested this deep. -/
def depthBound : Nat := 128

/-- References may be followed this many times for each step through a document. -/
def followBound : Nat := 100

/-- The mapping that the document is, as an object. Its tag does not count. -/
def object? (d : Document) : Option Json := do
  let entries ← d.root.entries?
  (d.value? depthBound (.mapping none entries)).run' (followBound * d.root.steps)

end Document

/-- The one mapping that `text` holds, as an object; nothing at all counts as an empty one. -/
def objectOf? (text : String) : Option Json := do (← parse? text).object?

end ClusterHealth.Yaml
