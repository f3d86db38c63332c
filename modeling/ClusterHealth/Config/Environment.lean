import ClusterHealth.Config.Overlay
import ClusterHealth.Text.Affix
import ClusterHealth.Text.Blank

/-!
Settings from environment variables. The text of a variable may spell a truth value, a number, a
list or a table; a text that spells none of these stands for itself.
-/
namespace ClusterHealth.Config
namespace VariableText
open Decimal (isDigit)

def isSpace (c : Char) : Bool :=
  c == ' ' || c == '\t' || c == '\n' || c == '\x0c' || c == '\r'

def skipSpace (chars : List Char) : List Char := chars.dropWhile isSpace

def isSeparator (c : Char) : Bool :=
  c == ',' || c == '[' || c == ']' || c == '\x7b' || c == '\x7d'

def isKeyChar (c : Char) : Bool := c.isAlphanum || c == '_' || c == '-'

/-- Cuts off the inside of a quoted text, escapes included. -/
def scanQuoted : List Char → Option (List Char × List Char)
  | [] => none
  | '"' :: rest => some ([], rest)
  | '\\' :: c :: rest => (scanQuoted rest).map fun (body, rest) => ('\\' :: c :: body, rest)
  | c :: rest => (scanQuoted rest).map fun (body, rest) => (c :: body, rest)

/-- Why a text does not spell a value. -/
inductive Flaw where
  /-- It has another form, and stands for itself. -/
  | form
  /-- A character of it is cut in two, and it stands for nothing. -/
  | cut
  deriving DecidableEq

abbrev Reading := Except Flaw

/-- The character with the number that hexadecimal digits spell. -/
def charOfHex? (digits : List Char) : Option Char := do
  let n ← digits.foldlM (fun n c => (Json.hexValue? c).map (n * 16 + ·)) 0
  if h : n.isValidChar then some (Char.ofNatAux n h) else none

def escaped? : Char → Option Char
  | '"' => some '"'
  | '\\' => some '\\'
  | 'b' => some '\x08'
  | 'f' => some '\x0c'
  | 'n' => some '\n'
  | 'r' => some '\r'
  | 't' => some '\t'
  | _ => none

/-- Control characters other than the tab have to be escaped. -/
def isPlain (c : Char) : Bool := c == '\t' || (0x20 ≤ c.toNat && c.toNat ≠ 0x7f)

def unescape? : List Char → Option (List Char)
  | [] => some []
  | '\\' :: 'u' :: a :: b :: c :: d :: rest => do
    let char ← charOfHex? [a, b, c, d]
    (unescape? rest).map (char :: ·)
  | '\\' :: 'U' :: a :: b :: c :: d :: e :: f :: g :: h :: rest => do
    let char ← charOfHex? [a, b, c, d, e, f, g, h]
    (unescape? rest).map (char :: ·)
  | '\\' :: c :: rest => do
    let char ← escaped? c
    (unescape? rest).map (char :: ·)
  | c :: rest => if isPlain c && c ≠ '\\' then (unescape? rest).map (c :: ·) else none

/-- The text between quotes. Of what stands in front of the first escape as many bytes count as it
has characters. -/
def unquoted (body : List Char) : Reading String :=
  let lead := body.takeWhile (· ≠ '\\')
  if !lead.all isPlain then .error .form
  else match body.dropWhile (· ≠ '\\') with
    | [] => .ok (.ofList lead)
    | escapes =>
      match Text.takeBytes? lead.length lead, unescape? escapes with
      | none, _ => .error .cut
      | some _, none => .error .form
      | some lead, some rest => .ok (.ofList (lead ++ rest))

/-- Takes a text behind its opening quote. -/
def readQuoted (chars : List Char) : Reading (String × List Char) := do
  let some (body, rest) := scanQuoted chars | throw .form
  return (← unquoted body, rest)

/-- Takes the name of an entry in a table. -/
def readKey : List Char → Reading (String × List Char)
  | '"' :: rest => readQuoted rest
  | chars =>
    match chars.takeWhile isKeyChar with
    | [] => throw .form
    | key => return (.ofList key, chars.dropWhile isKeyChar)

/-- An unsigned or a negative number of 64 bits. -/
def readInt? (chars : List Char) : Option Int := do
  let n ← Decimal.readInt? chars
  if chars.head? = some '-' then if -(Nat.pow 2 63 : Int) ≤ n then some n else none
  else if n < Nat.pow 2 64 then some n else none

/-- The value of an unquoted text. -/
def bareValue (chars : List Char) : Json :=
  let chars := Text.trimBlankChars chars
  let text := String.ofList chars
  match if chars.contains '.' then Decimal.readFloat? text else none, readInt? chars with
  | some x, _ => .number (.float x)
  | none, some n => .ofInt n
  | none, none => .string text

mutual

/-- Takes one value with white space around it; every nested call spends one unit of fuel. -/
def readValue : Nat → List Char → Reading (Json × List Char)
  | 0, _ => throw .form
  | fuel + 1, chars => do
    let (value, rest) ← match skipSpace chars with
      | 't' :: 'r' :: 'u' :: 'e' :: rest => pure (.bool true, rest)
      | 'f' :: 'a' :: 'l' :: 's' :: 'e' :: rest => pure (.bool false, rest)
      | '\x7b' :: rest => do
        let (fields, rest) ← readEntries fuel rest
        pure (.ofFields fields, rest)
      | '[' :: rest => do
        let (items, rest) ← readItems fuel rest
        pure (.array items, rest)
      | '"' :: rest => do
        let (text, rest) ← readQuoted rest
        pure (.string text, rest)
      | '\x27' :: c :: '\x27' :: rest => pure (.string (.singleton c), rest)
      | '\x27' :: _ => throw .form
      | rest => pure (bareValue (rest.takeWhile (!isSeparator ·)), rest.dropWhile (!isSeparator ·))
    return (value, skipSpace rest)

/-- Takes the items of a list and its closing bracket. A comma may follow the last one. -/
def readItems : Nat → List Char → Reading (List Json × List Char)
  | 0, _ => throw .form
  | _ + 1, ']' :: rest => return ([], rest)
  | fuel + 1, chars => do
    let (item, rest) ← readValue fuel chars
    match rest with
    | ',' :: rest =>
      let (items, rest) ← readItems fuel rest
      return (item :: items, rest)
    | ']' :: rest => return ([item], rest)
    | _ => throw .form

/-- Takes the entries of a table and its closing brace. -/
def readEntries : Nat → List Char → Reading (List (String × Json) × List Char)
  | 0, _ => throw .form
  | _ + 1, '\x7d' :: rest => return ([], rest)
  | fuel + 1, chars => do
    let (key, rest) ← readKey (skipSpace chars)
    match skipSpace rest with
    | '=' :: rest =>
      let (item, rest) ← readValue fuel rest
      match rest with
      | ',' :: rest =>
        let (entries, rest) ← readEntries fuel rest
        return ((key, item) :: entries, rest)
      | '\x7d' :: rest => return ([(key, item)], rest)
      | _ => throw .form
    | _ => throw .form

end

/-- The value that the text of a variable spells, unless a character in it is cut. -/
def value? (text : String) : Option Json :=
  let chars := text.toList
  match readValue (2 * chars.length + 2) chars with
  | .ok (value, []) => some value
  | .ok _ | .error .form => some (.string text)
  | .error .cut => none

end VariableText

/-- Variables by name, in the order that they count in. -/
abbrev Environment := List (String × String)

namespace Environment

/-- Variables that override settings begin with this. -/
def settingLead : String := "cmsdev_"

/-- Two underscores in a name stand between a section and what is in it, as a point does. -/
def pointed : List Char → List Char
  | '_' :: '_' :: rest => '.' :: pointed rest
  | c :: rest => c :: pointed rest
  | [] => []

/-- Whether a path names something in each of its parts. -/
def isPath (path : String) : Bool := (Text.splitOn '.' path).all (!·.isEmpty)

/-- The path of the setting that a variable overrides. -/
def settingPath? (name : String) : Option String := do
  let key ← Text.after? (Text.lowerAscii (Text.trim name)) settingLead
  let path := Text.trim (.ofList (pointed key.toList))
  if isPath path then some path else none

/-- The path of the recipe setting that a variable without the common beginning names. -/
def recipePath? (name : String) : Option String :=
  match Text.lowerAscii (Text.trim name) with
  | "ims_recipe_name" => some "ims.recipe_name"
  | "ims_recipe_distro" => some "ims.recipe_distro"
  | _ => none

/-- The settings of those variables that `path?` selects; later ones lie over earlier ones. There
are none if one of them stands for nothing. -/
def layer? (path? : String → Option String) (env : Environment) : Option Json :=
  env.foldlM (fun under (name, text) =>
    match path? name with
    | some path => do return overlay under (Json.nested path (← VariableText.value? text))
    | none => some under) (.object [])

end Environment
end ClusterHealth.Config
