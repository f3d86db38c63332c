import ClusterHealth.Json.Value
import ClusterHealth.Decimal.Text

/-! Values as documents, on one line or indented by two spaces a level. -/
namespace ClusterHealth.Json

def hexDigit (n : Nat) : Char := (Nat.digitChar n)

def escapeChar : Char → List Char
  | '"' => ['\\', '"']
  | '\\' => ['\\', '\\']
  | '\x08' => ['\\', 'b']
  | '\x0c' => ['\\', 'f']
  | '\n' => ['\\', 'n']
  | '\r' => ['\\', 'r']
  | '\t' => ['\\', 't']
  | c =>
    if c.toNat < 0x20 then
      ['\\', 'u', '0', '0', hexDigit (c.toNat / 16), hexDigit (c.toNat % 16)]
    else [c]

/-- A text between quotes. -/
def writeString (text : String) : List Char :=
  '"' :: text.toList.flatMap escapeChar ++ ['"']

def Number.text : Number → String
  | .integer n => toString n
  | .float x => x.text

def writeAtom : Json → List Char
  | .null => "null".toList
  | .bool true => "true".toList
  | .bool false => "false".toList
  | .number n => n.text.toList
  | .string text => writeString text
  | _ => []

mutual

def writeCompact : Json → List Char
  | .array items => '[' :: compactItems items
  | .object fields => '\x7b' :: compactFields fields
  | atom => writeAtom atom

def compactItems : List Json → List Char
  | [] => [']']
  | [item] => writeCompact item ++ [']']
  | item :: rest => writeCompact item ++ ',' :: compactItems rest

def compactFields : List (String × Json) → List Char
  | [] => ['\x7d']
  | [(key, value)] => writeString key ++ ':' :: writeCompact value ++ ['\x7d']
  | (key, value) :: rest =>
    writeString key ++ ':' :: writeCompact value ++ ',' :: compactFields rest

end

/-- The value on one line without any space. -/
def compact (value : Json) : String := .ofList (writeCompact value)

def indent (level : Nat) : List Char := '\n' :: List.replicate (2 * level) ' '

mutual

def writePretty (level : Nat) : Json → List Char
  | .array [] => ['[', ']']
  | .array items => '[' :: prettyItems (level + 1) items ++ indent level ++ [']']
  | .object [] => ['\x7b', '\x7d']
  | .object fields => '\x7b' :: prettyFields (level + 1) fields ++ indent level ++ ['\x7d']
  | atom => writeAtom atom

def prettyItems (level : Nat) : List Json → List Char
  | [] => []
  | [item] => indent level ++ writePretty level item
  | item :: rest => indent level ++ writePretty level item ++ ',' :: prettyItems level rest

def prettyFields (level : Nat) : List (String × Json) → List Char
  | [] => []
  | [(key, value)] =>
    indent level ++ writeString key ++ [':', ' '] ++ writePretty level value
  | (key, value) :: rest =>
    indent level ++ writeString key ++ [':', ' '] ++ writePretty level value ++
      ',' :: prettyFields level rest

end

/-- The value with one item or field a line. -/
def pretty (value : Json) : String := .ofList (writePretty 0 value)

end ClusterHealth.Json
