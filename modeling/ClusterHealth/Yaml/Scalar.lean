import ClusterHealth.Json.Document
import ClusterHealth.Yaml.Cursor

/-!
Scalars: plain, between quotes, and as blocks of lines. Each scanner gives the text of the scalar
and the place behind it, or nothing if the scalar is broken.
-/
namespace ClusterHealth.Yaml

/-- White space met between words: blanks of one line, or line breaks. -/
structure Gap where
  blanks : List Char := []
  firstBreak : List Char := []
  moreBreaks : List Char := []
  broken : Bool := false

/-- One line break becomes a space; further ones stay. -/
def Gap.folded (gap : Gap) : List Char :=
  if gap.broken then
    if gap.firstBreak = ['\n'] then
      if gap.moreBreaks.isEmpty then [' '] else gap.moreBreaks
    else gap.firstBreak ++ gap.moreBreaks
  else gap.blanks

/-- Gathers a gap. `tabLimit` is the column that a tab after a line break may not stand before. -/
def takeGap (tabLimit : Int) : Nat → Gap → Cursor → Option (Gap × Cursor)
  | 0, gap, here => some (gap, here)
  | fuel + 1, gap, here =>
    match here.peek with
    | none => some (gap, here)
    | some c =>
      if isSpaceOrTab c then
        if gap.broken then
          if c == '\t' && (here.column : Int) < tabLimit then none
          else takeGap tabLimit fuel gap (here.skip 1)
        else takeGap tabLimit fuel { gap with blanks := gap.blanks ++ [c] } (here.skip 1)
      else if isBreak c then
        let (text, next) := here.takeBreak
        if gap.broken then
          takeGap tabLimit fuel { gap with moreBreaks := gap.moreBreaks ++ text } next
        else takeGap tabLimit fuel ⟨[], text, [], true⟩ next
      else some (gap, here)

def isFlowMark (c : Char) : Bool :=
  c == ',' || c == '[' || c == ']' || c == '\x7b' || c == '\x7d'

/-- The characters of a plain scalar up to white space or whatever ends it. -/
def takePlainWord (inFlow : Bool) : Nat → Cursor → Option (List Char × Cursor)
  | 0, here => some ([], here)
  | fuel + 1, here =>
    match here.peek with
    | none => some ([], here)
    | some c =>
      let next := here.peekAt 1
      if endsWord (some c) then some ([], here)
      else if inFlow && c == ':' && next.any (fun d => d == '?' || isFlowMark d) then none
      else if c == ':' && endsWord next then some ([], here)
      else if inFlow && isFlowMark c then some ([], here)
      else (takePlainWord inFlow fuel (here.skip 1)).map fun (word, here) => (c :: word, here)

structure PlainScalar where
  text : List Char
  next : Cursor
  /-- White space with a line break follows the last word. -/
  endsLine : Bool

/-- Words of a plain scalar, on lines indented by at least `indent`. -/
def takePlain (inFlow : Bool) (indent : Int) : Nat → List Char → Gap → Cursor →
    Option PlainScalar
  | 0, _, _, _ => none
  | fuel + 1, text, gap, here =>
    if here.onDocumentMark || here.peek == some '#' then some ⟨text, here, gap.broken⟩
    else do
      let (word, behind) ← takePlainWord inFlow here.rest.length here
      let (text, gap) := if word.isEmpty then (text, gap) else (text ++ gap.folded ++ word, {})
      if !(behind.onSpaceOrTab || behind.onBreak) then some ⟨text, behind, gap.broken⟩
      else
        let (gap, next) ← takeGap indent behind.rest.length gap behind
        if !inFlow && (next.column : Int) < indent then some ⟨text, next, gap.broken⟩
        else takePlain inFlow indent fuel text gap next

/-- What a letter after a backslash stands for in double quotes. -/
def escapeOf : Char → Option Char
  | '0' => some '\x00'
  | 'a' => some '\x07'
  | 'b' => some '\x08'
  | 't' | '\t' => some '\t'
  | 'n' => some '\n'
  | 'v' => some '\x0b'
  | 'f' => some '\x0c'
  | 'r' => some '\r'
  | 'e' => some '\x1b'
  | ' ' => some ' '
  | '"' => some '"'
  | '/' => some '/'
  | '\\' => some '\\'
  | 'N' => some '\x85'
  | '_' => some '\xa0'
  | 'L' => some '\u2028'
  | 'P' => some '\u2029'
  | _ => none

/-- How many hexadecimal digits follow an escape of a code point. -/
def escapeWidth : Char → Option Nat
  | 'x' => some 2
  | 'u' => some 4
  | 'U' => some 8
  | _ => none

def takeEscape (here : Cursor) : Option (Char × Cursor) := do
  let c ← here.peekAt 1
  match escapeWidth c with
  | none => (escapeOf c).map (·, here.skip 2)
  | some width =>
    let digits ← ((here.rest.drop 2).take width).mapM Json.hexValue?
    let code := digits.foldl (fun n d => n * 16 + d) 0
    if digits.length = width ∧ code.isValidChar then
      some (Char.ofNat code, here.skip (2 + width))
    else none

/-- The characters between quotes up to white space or the closing quote. An escaped line break
ends the word, and its gap adds nothing. -/
def takeQuotedWord (double : Bool) : Nat → Cursor → Option (List Char × Bool × Cursor)
  | 0, _ => none
  | fuel + 1, here =>
    match here.peek with
    | none => some ([], false, here)
    | some c =>
      let proceed (c : Char) (next : Cursor) :=
        (takeQuotedWord double fuel next).map fun (word, joined, here) => (c :: word, joined, here)
      if endsWord (some c) then some ([], false, here)
      else if !double && c == '\'' then
        if here.peekAt 1 == some '\'' then proceed '\'' (here.skip 2) else some ([], false, here)
      else if double && c == '"' then some ([], false, here)
      else if double && c == '\\' then
        if (here.peekAt 1).any isBreak then some ([], true, (here.skip 1).takeBreak.2)
        else do
          let (c, next) ← takeEscape here
          proceed c next
      else proceed c (here.skip 1)

/-- Words of a scalar between quotes, behind the opening one. -/
def takeQuoted (double : Bool) : Nat → List Char → Cursor → Option (List Char × Cursor)
  | 0, _, _ => none
  | fuel + 1, text, here =>
    if here.onDocumentMark || here.atEnd then none
    else do
      let (word, joined, behind) ← takeQuotedWord double (here.rest.length + 1) here
      let text := text ++ word
      if !joined && behind.peek == some (if double then '"' else '\'') then
        some (text, behind.skip 1)
      else
        let gap : Gap := { broken := joined }
        let (gap, next) ← takeGap 0 behind.rest.length gap behind
        takeQuoted double fuel (text ++ gap.folded) next

/-- What happens to the line breaks at the end of a block. -/
inductive Chomping where
  | strip
  | clip
  | keep
  deriving DecidableEq

def chompingOf? : Char → Option Chomping
  | '-' => some .strip
  | '+' => some .keep
  | _ => none

def indentOf? (c : Char) : Option Nat :=
  if '1' ≤ c ∧ c ≤ '9' then some (c.toNat - '0'.toNat) else none

/-- Chomping and indentation in a block's first line, in either order. -/
def takeBlockHeader (here : Cursor) : Chomping × Option Nat × Cursor :=
  match here.peek with
  | none => (.clip, none, here)
  | some c =>
    match chompingOf? c, indentOf? c with
    | some chomping, _ =>
      match (here.peekAt 1).bind indentOf? with
      | some n => (chomping, some n, here.skip 2)
      | none => (chomping, none, here.skip 1)
    | none, some n =>
      match (here.peekAt 1).bind chompingOf? with
      | some chomping => (chomping, some n, here.skip 2)
      | none => (.clip, some n, here.skip 1)
    | none, none => (.clip, none, here)

/-- Skips the rest of a line that may hold a comment only, with its line break. -/
def skipLineEnd (here : Cursor) : Option Cursor :=
  let here := (here.takeWhile isSpaceOrTab).2
  let here := if here.peek == some '#' then (here.takeWhile (!isBreak ·)).2 else here
  if here.atEnd then some here else if here.onBreak then some here.takeBreak.2 else none

/-- Empty lines of a block. An `indent` of zero is still to be found; `widest` is the widest
indentation seen. -/
def takeEmptyLines (indent : Nat) : Nat → Nat → List Char → Cursor →
    Option (Nat × List Char × Cursor)
  | 0, widest, breaks, here => some (widest, breaks, here)
  | fuel + 1, widest, breaks, here =>
    let spaces := (here.rest.takeWhile (· == ' ')).length
    let room := if indent = 0 then spaces else min spaces (indent - here.column)
    let here := here.skip room
    let widest := max widest here.column
    if (indent = 0 ∨ here.column < indent) ∧ here.peek = some '\t' then none
    else if here.onBreak then
      let (text, next) := here.takeBreak
      takeEmptyLines indent fuel widest (breaks ++ text) next
    else some (widest, breaks, here)

/-- Lines of a block gathered so far. -/
structure BlockText where
  text : List Char := []
  lastBreak : List Char := []
  breaks : List Char := []
  lastBlank : Bool := false

/-- Joins the next line. In a folded block one break between two lines that do not begin with
white space becomes a space. -/
def BlockText.addLine (block : BlockText) (folded blank : Bool) (line lineBreak : List Char) :
    BlockText :=
  let joint :=
    if folded && block.lastBreak == ['\n'] && !block.lastBlank && !blank then
      if block.breaks.isEmpty then [' '] else []
    else block.lastBreak
  ⟨block.text ++ joint ++ block.breaks ++ line, lineBreak, [], blank⟩

def takeBlockLines (folded : Bool) (indent : Nat) : Nat → BlockText → Cursor →
    Option (BlockText × Cursor)
  | 0, block, here => some (block, here)
  | fuel + 1, block, here =>
    if here.column = indent ∧ !here.atEnd then do
      let blank := here.onSpaceOrTab
      let (line, behind) := here.takeWhile (!isBreak ·)
      let (lineBreak, next) := behind.takeBreak
      let (_, breaks, next) ← takeEmptyLines indent (next.rest.length + 1) 0 [] next
      let block := block.addLine folded blank line lineBreak
      takeBlockLines folded indent fuel { block with breaks := breaks } next
    else some (block, here)

/-- A block scalar behind its first mark; `parent` is the indentation around it. -/
def takeBlock (folded : Bool) (parent : Int) (here : Cursor) : Option (List Char × Cursor) := do
  let (chomping, width, here) := takeBlockHeader here
  let here ← skipLineEnd here
  let given : Nat := match width with
    | some n => (if 0 ≤ parent then parent + n else n).toNat
    | none => 0
  let (widest, breaks, here) ← takeEmptyLines given (here.rest.length + 1) 0 [] here
  let indent := if given = 0 then max widest (max (parent + 1) 1).toNat else given
  let (block, here) ←
    takeBlockLines folded indent (here.rest.length + 1) { breaks := breaks } here
  let tail := match chomping with
    | .strip => []
    | .clip => block.lastBreak
    | .keep => block.lastBreak ++ block.breaks
  some (block.text ++ tail, here)

end ClusterHealth.Yaml
