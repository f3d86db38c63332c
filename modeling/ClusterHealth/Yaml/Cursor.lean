/-! A place in a text, with its line and column. -/
namespace ClusterHealth.Yaml

structure Cursor where
  rest : List Char
  /-- How many bytes lie in front. -/
  index : Nat
  line : Nat
  column : Nat

def Cursor.start (chars : List Char) : Cursor := ⟨chars, 0, 0, 0⟩

def isSpaceOrTab (c : Char) : Bool := c == ' ' || c == '\t'

def isBreak (c : Char) : Bool :=
  c == '\n' || c == '\r' || c == '\x85' || c == '\u2028' || c == '\u2029'

/-- The mark that tells the order of bytes. -/
def isByteOrderMark (c : Char) : Bool := c == '\ufeff'

def byteCount : List Char → Nat
  | [] => 0
  | c :: rest => c.utf8Size + byteCount rest

/-- White space, a line break or the end. -/
def endsWord : Option Char → Bool
  | none => true
  | some c => isSpaceOrTab c || isBreak c

namespace Cursor

def peek (here : Cursor) : Option Char := here.rest.head?

def peekAt (here : Cursor) (n : Nat) : Option Char := here.rest[n]?

def atEnd (here : Cursor) : Bool := here.rest.isEmpty

def onSpaceOrTab (here : Cursor) : Bool := here.peek.any isSpaceOrTab

def onBreak (here : Cursor) : Bool := here.peek.any isBreak

def onWordEnd (here : Cursor) : Bool := endsWord here.peek

/-- Steps over `n` characters of one line. -/
def skip (here : Cursor) (n : Nat) : Cursor :=
  ⟨here.rest.drop n, here.index + byteCount (here.rest.take n), here.line, here.column + n⟩

/-- Steps over a line break, if there is one, and gives the text it stands for. -/
def takeBreak (here : Cursor) : List Char × Cursor :=
  match here.rest with
  | '\r' :: '\n' :: rest => (['\n'], ⟨rest, here.index + 2, here.line + 1, 0⟩)
  | c :: rest =>
    if isBreak c then
      (if c == '\u2028' || c == '\u2029' then [c] else ['\n'],
        ⟨rest, here.index + c.utf8Size, here.line + 1, 0⟩)
    else ([], here)
  | [] => ([], here)

/-- Steps over a byte order mark at the beginning of a line. -/
def skipByteOrderMark (here : Cursor) : Cursor :=
  if here.column = 0 ∧ here.peek.any isByteOrderMark then here.skip 1 else here

/-- Steps over the characters that `p` selects on one line. -/
def takeWhile (here : Cursor) (p : Char → Bool) : List Char × Cursor :=
  let taken := here.rest.takeWhile p
  (taken, here.skip taken.length)

/-- A line of three dashes or three dots begins here. -/
def onDocumentMark (here : Cursor) : Bool :=
  here.column == 0 && endsWord (here.peekAt 3) &&
    (here.rest.take 3 == ['-', '-', '-'] || here.rest.take 3 == ['.', '.', '.'])

end Cursor
end ClusterHealth.Yaml
