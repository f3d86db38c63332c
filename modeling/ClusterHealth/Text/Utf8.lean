/-!
Bytes as text. A scanner cuts bytes into characters and the shortest broken stretches between
them; strict reading refuses a broken stretch, lenient reading replaces each one.
-/
namespace ClusterHealth.Text

abbrev Bytes := List UInt8

/-- Bounds of the second byte after a leading byte, and how many bytes follow the leading one. -/
def followers (lead : UInt8) : Option (UInt8 × UInt8 × Nat) :=
  if lead < 0xc2 then none
  else if lead < 0xe0 then some (0x80, 0xbf, 1)
  else if lead = 0xe0 then some (0xa0, 0xbf, 2)
  else if lead = 0xed then some (0x80, 0x9f, 2)
  else if lead < 0xf0 then some (0x80, 0xbf, 2)
  else if lead = 0xf0 then some (0x90, 0xbf, 3)
  else if lead < 0xf4 then some (0x80, 0xbf, 3)
  else if lead = 0xf4 then some (0x80, 0x8f, 3)
  else none

/-- Takes up to `count` following bytes, the first within the bounds. -/
def takeFollowers (low high : UInt8) : Nat → Bytes → Bytes
  | 0, _ => []
  | _, [] => []
  | count + 1, b :: rest =>
    if low ≤ b ∧ b ≤ high then b :: takeFollowers 0x80 0xbf count rest else []

/-- The code point of a leading byte and all its followers. -/
def codePoint (lead : UInt8) (rest : Bytes) : Nat :=
  let bits := match rest.length with
    | 1 => lead.toNat % 32
    | 2 => lead.toNat % 16
    | _ => lead.toNat % 8
  rest.foldl (fun n b => n * 64 + b.toNat % 64) bits

/-- The first character, or `none` for a broken stretch, and how many bytes after `lead` it has. -/
def scanChar (lead : UInt8) (rest : Bytes) : Option Char × Nat :=
  if lead < 0x80 then (some (Char.ofNat lead.toNat), 0)
  else match followers lead with
    | none => (none, 0)
    | some (low, high, count) =>
      let taken := takeFollowers low high count rest
      if taken.length = count then (some (Char.ofNat (codePoint lead taken)), count)
      else (none, taken.length)

def scan : Bytes → List (Option Char)
  | [] => []
  | lead :: rest =>
    let (c, count) := scanChar lead rest
    c :: scan (rest.drop count)
termination_by bytes => bytes.length

/-- The text that `bytes` spell, if all of them do. -/
def decodeUtf8? (bytes : Bytes) : Option String := ((scan bytes).mapM id).map String.ofList

/-- The text that `bytes` spell, with a replacement character for each broken stretch. -/
def decodeUtf8Lenient (bytes : Bytes) : String :=
  .ofList ((scan bytes).map (·.getD '\ufffd'))

def encodeUtf8 (text : String) : Bytes := text.toList.flatMap String.utf8EncodeChar

end ClusterHealth.Text
