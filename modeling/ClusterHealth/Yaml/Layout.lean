import ClusterHealth.Yaml.Scalar
import ClusterHealth.Yaml.Tag
import ClusterHealth.Yaml.Token

/-!
Layout: characters to tokens. Indentation opens and closes blocks, and a scalar turns out to be a
key when a colon follows it on its line, so its key mark is put in front of it afterwards.
-/
namespace ClusterHealth.Yaml

/-- A place where a key may have begun. -/
structure KeyPlace where
  tokenIndex : Nat
  here : Cursor
  /-- The place is where a block's next key has to stand, so a colon must follow. -/
  required : Bool

structure Layout where
  here : Cursor
  tokens : Array Token := #[]
  /-- Column of the innermost block, or -1 outside of all. -/
  indent : Int := -1
  outer : List Int := []
  /-- One entry per open flow collection, and one for the blocks around them. -/
  keys : List (Option KeyPlace) := [none]
  keyAllowed : Bool := true

namespace Layout

def flowDepth (s : Layout) : Nat := s.keys.length - 1

def inFlow (s : Layout) : Bool := 0 < s.flowDepth

def push (s : Layout) (token : Token) : Layout := { s with tokens := s.tokens.push token }

def insertAt (s : Layout) (i : Nat) (token : Token) : Layout :=
  { s with tokens := s.tokens.take i ++ #[token] ++ s.tokens.drop i }

/-- Opens a block at `column` if it is deeper than the innermost one. -/
def openBlock (s : Layout) (column : Nat) (position : Nat) (token : Token) : Layout :=
  if s.inFlow || (column : Int) ≤ s.indent then s
  else { s.insertAt position token with indent := column, outer := s.indent :: s.outer }

/-- Closes every block that is deeper than `column`. -/
def closeBlocks (s : Layout) (column : Int) : Layout :=
  if s.inFlow then s else close s.outer s
where
  close : List Int → Layout → Layout
    | [], s => s
    | indent :: outer, s =>
      if column < s.indent then
        close outer { s.push .blockEnd with indent := indent, outer := outer }
      else s

/-- Gives up the place of a key; an error if a key has to stand there. -/
def dropKey (s : Layout) : Option Layout :=
  match s.keys with
  | some place :: rest => if place.required then none else some { s with keys := none :: rest }
  | _ => some s

/-- Notes that a key may begin here. -/
def noteKey (s : Layout) : Option Layout :=
  if s.keyAllowed then do
    let required := !s.inFlow && s.indent = s.here.column
    let s ← s.dropKey
    some { s with keys := some ⟨s.tokens.size, s.here, required⟩ :: s.keys.tail }
  else some s

/-- A key ends on the line where it begins, within 1024 bytes. -/
def keyInReach (s : Layout) (place : KeyPlace) : Bool :=
  place.here.line == s.here.line && s.here.index ≤ place.here.index + 1024

/-- Emits a token of `width` characters. -/
def advance (s : Layout) (width : Nat) (token : Token) : Layout :=
  { s.push token with here := s.here.skip width }

def openFlow (s : Layout) (token : Token) : Option Layout := do
  let s ← s.noteKey
  some { s.advance 1 token with keys := none :: s.keys, keyAllowed := true }

def closeFlow (s : Layout) (token : Token) : Option Layout := do
  let s ← s.dropKey
  let keys := match s.keys with
    | _ :: k :: rest => k :: rest
    | keys => keys
  some { s.advance 1 token with keys := keys, keyAllowed := false }

def flowEntry (s : Layout) : Option Layout := do
  let s ← s.dropKey
  some { s.advance 1 .flowEntry with keyAllowed := true }

def blockEntry (s : Layout) : Option Layout := do
  if !s.inFlow && !s.keyAllowed then none
  let s := s.openBlock s.here.column s.tokens.size .blockSequenceStart
  let s ← s.dropKey
  some { s.advance 1 .blockEntry with keyAllowed := true }

/-- A question mark in front of a key. -/
def keyMark (s : Layout) : Option Layout := do
  if !s.inFlow && !s.keyAllowed then none
  let s := s.openBlock s.here.column s.tokens.size .blockMappingStart
  let s ← s.dropKey
  some { s.advance 1 .key with keyAllowed := !s.inFlow }

/-- A colon: what was noted as a possible key becomes one. -/
def valueMark (s : Layout) : Option Layout :=
  match s.keys with
  | some place :: rest =>
    if s.keyInReach place then
      let s := s.insertAt place.tokenIndex .key
      let s := s.openBlock place.here.column place.tokenIndex .blockMappingStart
      some { s.advance 1 .value with keys := none :: rest, keyAllowed := false }
    else if place.required then none else loneValue { s with keys := none :: rest }
  | _ => loneValue s
where
  loneValue (s : Layout) : Option Layout := do
    if !s.inFlow && !s.keyAllowed then none
    let s := s.openBlock s.here.column s.tokens.size .blockMappingStart
    some { s.advance 1 .value with keyAllowed := !s.inFlow }

/-- An anchor or a reference to one. -/
def name (s : Layout) (token : String → Token) : Option Layout := do
  let s ← s.noteKey
  let (name, next) := (s.here.skip 1).takeWhile isNameChar
  let ends := next.onWordEnd || next.peek.any
    (fun c => c == '?' || c == ':' || c == ',' || c == ']' || c == '\x7d' || c == '%' || c == '@' ||
      c == Char.ofNat 0x60)
  if name.isEmpty || !ends then none
  else some { s.push (token (.ofList name)) with here := next, keyAllowed := false }

/-- The handle and the suffix of a tag. -/
def tagParts (here : Cursor) : Option (String × String × Cursor) :=
  if here.peekAt 1 == some '<' then do
    let (uri, next) := (here.skip 2).takeWhile isTagUriChar
    if uri.isEmpty || next.peek ≠ some '>' then none
    some ("", ← tagText? uri, next.skip 1)
  else
    let (handle, next) := (here.skip 1).takeWhile isNameChar
    if next.peek == some '!' then do
      let (suffix, next) := (next.skip 1).takeWhile isTagChar
      if suffix.isEmpty then none
      some (.ofList ('!' :: handle ++ ['!']), ← tagText? suffix, next)
    else do
      let (more, next) := next.takeWhile isTagChar
      let suffix ← tagText? (handle ++ more)
      some (if suffix.isEmpty then ("", "!", next) else ("!", suffix, next))

def tag (s : Layout) : Option Layout := do
  let s ← s.noteKey
  let (handle, suffix, next) ← tagParts s.here
  if next.onWordEnd || (s.inFlow && next.peek == some ',') then
    some { s.push (.tag handle suffix) with here := next, keyAllowed := false }
  else none

def blockScalar (s : Layout) (folded : Bool) : Option Layout := do
  let s ← s.dropKey
  let (text, next) ← takeBlock folded s.indent (s.here.skip 1)
  let style := if folded then ScalarStyle.folded else .literal
  some { s.push (.scalar style (.ofList text)) with here := next, keyAllowed := true }

def quotedScalar (s : Layout) (double : Bool) : Option Layout := do
  let s ← s.noteKey
  let (text, next) ← takeQuoted double (s.here.rest.length + 1) [] (s.here.skip 1)
  some { s.push (.scalar .quoted (.ofList text)) with here := next, keyAllowed := false }

def plainScalar (s : Layout) : Option Layout := do
  let s ← s.noteKey
  let scalar ← takePlain s.inFlow (s.indent + 1) (s.here.rest.length + 1) [] {} s.here
  some { s.push (.scalar .plain (.ofList scalar.text)) with
    here := scalar.next, keyAllowed := scalar.endsLine }

def documentMark (s : Layout) : Option Layout := do
  let token := if s.here.peek == some '-' then Token.documentStart else .documentEnd
  let s ← (s.closeBlocks (-1)).dropKey
  some { s.advance 3 token with keyAllowed := false }

/-- Version 1.1 or 1.2 behind its directive's name. -/
def versionOf (here : Cursor) : Option Cursor := do
  let here := (here.takeWhile isSpaceOrTab).2
  let (major, here) := here.takeWhile Char.isDigit
  if major.isEmpty || 9 < major.length || here.peek ≠ some '.' then none
  let (minor, here) := (here.skip 1).takeWhile Char.isDigit
  if minor.isEmpty || 9 < minor.length then none
  let version := (Decimal.natOfDigits major, Decimal.natOfDigits minor)
  if version = (1, 1) ∨ version = (1, 2) then some here else none

def tagDirectiveOf (here : Cursor) : Option (Token × Cursor) := do
  let here := (here.takeWhile isSpaceOrTab).2
  if here.peek ≠ some '!' then none
  let (handle, here) := (here.skip 1).takeWhile isNameChar
  let (closing, here) := if here.peek == some '!' then (['!'], here.skip 1) else ([], here)
  if closing.isEmpty && !handle.isEmpty then none
  if !here.onSpaceOrTab then none
  let here := (here.takeWhile isSpaceOrTab).2
  let (stem, here) := here.takeWhile isTagUriChar
  if stem.isEmpty || !here.onWordEnd then none
  some (.tagDirective (.ofList ('!' :: handle ++ closing)) (← tagText? stem), here)

def directive (s : Layout) : Option Layout := do
  let s ← (s.closeBlocks (-1)).dropKey
  let (name, here) := (s.here.skip 1).takeWhile isNameChar
  if !here.onWordEnd then none
  let (token, here) ← match String.ofList name with
    | "YAML" => (versionOf here).map (Token.versionDirective, ·)
    | "TAG" => tagDirectiveOf here
    | _ => none
  some { s.push token with here := ← skipLineEnd here, keyAllowed := false }

/-- Skips blank space and comments up to the next token. A byte order mark may begin a line. -/
def skipToToken : Nat → Layout → Layout
  | 0, s => s
  | fuel + 1, s =>
    let tabs := s.inFlow || !s.keyAllowed
    let here := (s.here.skipByteOrderMark.takeWhile fun c => c == ' ' || (tabs && c == '\t')).2
    let here := if here.peek == some '#' then (here.takeWhile (!isBreak ·)).2 else here
    if here.onBreak then
      skipToToken fuel
        { s with here := here.takeBreak.2, keyAllowed := s.keyAllowed || !s.inFlow }
    else { s with here := here }

/-- Characters that no plain scalar begins with, unless more is known. -/
def isIndicator (c : Char) : Bool :=
  "-?:,[]\x7b\x7d#&*!|>'\"%@".toList.contains c || c == Char.ofNat 0x60

def beginsPlain (s : Layout) (c : Char) : Bool :=
  let next := s.here.peekAt 1
  !(isIndicator c || endsWord (some c)) || (c == '-' && !next.any isSpaceOrTab) ||
    (!s.inFlow && (c == '?' || c == ':') && !endsWord next)

/-- Emits the next token, in front of which `c` stands. -/
def next (s : Layout) (c : Char) : Option Layout :=
  let ends := endsWord (s.here.peekAt 1)
  if c == '%' && s.here.column == 0 then s.directive
  else if s.here.onDocumentMark then s.documentMark
  else match c with
    | '[' => s.openFlow .flowSequenceStart
    | '\x7b' => s.openFlow .flowMappingStart
    | ']' => s.closeFlow .flowSequenceEnd
    | '\x7d' => s.closeFlow .flowMappingEnd
    | ',' => s.flowEntry
    | _ =>
      if c == '-' && ends then s.blockEntry
      else if c == '?' && (s.inFlow || ends) then s.keyMark
      else if c == ':' && (s.inFlow || ends) then s.valueMark
      else if c == '*' then s.name .reference
      else if c == '&' then s.name .anchor
      else if c == '!' then s.tag
      else if (c == '|' || c == '>') && !s.inFlow then s.blockScalar (c == '>')
      else if c == '\'' || c == '"' then s.quotedScalar (c == '"')
      else if s.beginsPlain c then s.plainScalar
      else none

def finish (s : Layout) : Option Layout := do
  let s ← (s.closeBlocks (-1)).dropKey
  some (s.push .streamEnd)

/-- Emits all tokens; every one takes a character at least. -/
def run : Nat → Layout → Option Layout
  | 0, _ => none
  | fuel + 1, s =>
    let s := skipToToken (s.here.rest.length + 1) s
    let s := s.closeBlocks s.here.column
    match s.here.peek with
    | none => s.finish
    | some c => do run fuel (← s.next c)

end Layout

/-- Characters that a document may hold. -/
def isDocumentChar (c : Char) : Bool :=
  c == '\t' || c == '\n' || c == '\r' || c == '\x85' || (0x20 ≤ c.toNat && c.toNat ≤ 0x7e) ||
    (0xa0 ≤ c.toNat && c.toNat ≤ 0xfffd) || 0x10000 ≤ c.toNat

/-- The tokens of `text`. -/
def tokens? (text : String) : Option (List Token) := do
  let chars := text.toList
  if !chars.all isDocumentChar then none
  let s ← Layout.run (chars.length + 1) { here := .start chars }
  some s.tokens.toList

end ClusterHealth.Yaml
