import ClusterHealth.Failure
import ClusterHealth.Text.Affix
import ClusterHealth.Text.Blank
import ClusterHealth.Text.Pattern

/-! Digests of contents, as the digest command prints them. -/
namespace ClusterHealth

/-- A small hexadecimal digit. -/
def isDigestChar (c : Char) : Bool := ('0' ≤ c && c ≤ '9') || ('a' ≤ c && c ≤ 'f')

/-- Thirty-two small hexadecimal digits. -/
structure Digest where
  chars : List Char
  length_eq : chars.length = 32
  digits : ∀ c ∈ chars, isDigestChar c
  deriving DecidableEq

namespace Digest

def text (d : Digest) : String := .ofList d.chars

def ofChars? (chars : List Char) : Option Digest :=
  if h : chars.length = 32 ∧ chars.all isDigestChar then
    some ⟨chars, h.1, List.all_eq_true.1 h.2⟩
  else none

def parse? (text : String) : Option Digest := ofChars? text.toList

/-- What the digest command prints for a file. -/
def line (d : Digest) (path : String) : String := s!"{d.text}  {path}\n"

/-- The pattern of what the digest command prints for the file at `path`. -/
def outputPattern (path : String) : String :=
  "^[0-9a-f]\x7b32\x7d  " ++ Text.Pattern.escape path ++ "\n$"

/-- Reads the digest of the file at `path` off the output of the digest command. -/
def ofOutput (output path : String) : Except DigestError Digest :=
  if Text.blank output then .error (.empty path)
  else if (Text.Pattern.parse? (outputPattern path)).any (·.occursIn output) then
    match (Text.takeBytes? 32 output.toList).bind ofChars? with
    | some d => .ok d
    | none => .error (.mismatch path output)
  else .error (.mismatch path output)

end Digest
end ClusterHealth
