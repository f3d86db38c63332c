import ClusterHealth.Text.Hidden

/-!
Quoted texts for messages: the quote, the backslash, line ends and tabs are escaped by a
backslash, hidden characters by their number, and everything else stands for itself.
-/
namespace ClusterHealth.Text

def hexDigits (n : Nat) : List Char := Nat.toDigits 16 n

def quotedChar : Char → List Char
  | '\x00' => ['\\', '0']
  | '\t' => ['\\', 't']
  | '\r' => ['\\', 'r']
  | '\n' => ['\\', 'n']
  | '"' => ['\\', '"']
  | '\\' => ['\\', '\\']
  | c =>
    if isHidden c then ['\\', 'u', '\x7b'] ++ hexDigits c.toNat ++ ['\x7d'] else [c]

def quoted (text : String) : String :=
  .ofList ('"' :: text.toList.flatMap quotedChar ++ ['"'])

end ClusterHealth.Text
