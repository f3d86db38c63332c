import ClusterHealth.Rehearsal.Shell.Basic
import ClusterHealth.Text.Affix

/-!
Scripts as tokens. Every step spends one unit of fuel; two more than the length of a script are
enough.
-/
namespace ClusterHealth.Rehearsal.Shell

inductive Token where
  | word (line : Nat) (w : Word)
  /-- A sign between commands. -/
  | sign (text : String)
  /-- A redirection, whose word follows. -/
  | redirect (stream : Nat) (sign : String)
  /-- A text that is the input. -/
  | document (w : Word)

/-- Unquoted characters that end a word. -/
def isBreak (c : Char) : Bool := [' ', '\t', '\n', ';', '&', '|', '(', ')', '<', '>'].contains c

def isNameStart (c : Char) : Bool := c.isAlpha || c = '_'

def isNameChar (c : Char) : Bool := c.isAlphanum || c = '_'

/-- Puts a character before a word. -/
def consChar (c : Char) (quoted : Bool) : Word → Word
  | .text chars q :: rest =>
    if q = quoted then .text (c :: chars) q :: rest else .text [c] quoted :: .text chars q :: rest
  | w => .text [c] quoted :: w

def readParameter : List Char → Option (Parameter × List Char)
  | '@' :: rest => some (.each, rest)
  | '*' :: rest => some (.all, rest)
  | '#' :: rest => some (.count, rest)
  | '?' :: rest => some (.status, rest)
  | '$' :: rest => some (.process, rest)
  | c :: rest =>
    if c.isDigit then some (.place (c.toNat - '0'.toNat), rest)
    else if isNameStart c then
      some (.name (.ofList (c :: rest.takeWhile isNameChar)), rest.dropWhile isNameChar)
    else none
  | [] => none

/-- Cuts before the sign that closes, with `depth` others still open. -/
def untilClosed (opening closing : Char) : Nat → List Char → Option (List Char × List Char)
  | _, [] => none
  | depth, c :: rest =>
    if c = closing && depth = 0 then some ([], rest)
    else
      let depth := if c = opening then depth + 1 else if c = closing then depth - 1 else depth
      (untilClosed opening closing depth rest).map fun (a, b) => (c :: a, b)

/-- Reads behind a dollar sign and an opening brace. -/
def readBraced (quoted : Bool) (chars : List Char) : Parsed (Piece × List Char) := do
  let some (inner, rest) := untilClosed '\x7b' '\x7d' 0 chars | throw .openBrace
  if let '#' :: named := inner then
    if let some (p, []) := readParameter named then return (.length p, rest)
  let some (p, behind) := readParameter inner | throw .badParameter
  match behind with
  | [] => return (.value p quoted, rest)
  | ':' :: '-' :: text => return (.fallback p true text quoted, rest)
  | '-' :: text => return (.fallback p false text quoted, rest)
  | _ => throw .badParameter

/-- Reads behind a dollar sign. -/
def readDollar (quoted : Bool) (chars : List Char) : Parsed (Piece × List Char) :=
  match chars with
  | '(' :: '(' :: rest =>
    match untilClosed '(' ')' 0 rest with
    | some (formula, ')' :: rest) => return (.number formula, rest)
    | _ => throw .openFormula
  | '(' :: rest =>
    match untilClosed '(' ')' 0 rest with
    | some (script, rest) => return (.output script quoted, rest)
    | none => throw (.unexpected endOfFile (some ")"))
  | '\x7b' :: rest => readBraced quoted rest
  | chars =>
    match readParameter chars with
    | some (p, rest) => return (.value p quoted, rest)
    | none => return (.text ['$'] quoted, chars)

/-- Reads behind a backquote. -/
def readBackquoted (quoted : Bool) (chars : List Char) : Parsed (Piece × List Char) :=
  match chars.dropWhile (· != '\x60') with
  | [] => throw .openBackquote
  | _ :: rest => return (.output (chars.takeWhile (· != '\x60')) quoted, rest)

/-- Reads to the closing quote, or a whole document, in which quotes stand for themselves. -/
def readQuoted (whole : Bool) : Nat → List Char → Parsed (Word × List Char)
  | 0, _ => throw .openQuotation
  | _, [] => if whole then return ([], []) else throw .openQuotation
  | fuel + 1, '\\' :: c :: rest => do
    let (w, left) ← readQuoted whole fuel rest
    if c = '\n' then return (w, left)
    else if ['$', '\x60', '"', '\\'].contains c then return (consChar c true w, left)
    else return (consChar '\\' true (consChar c true w), left)
  | fuel + 1, c :: rest =>
    if c = '"' && !whole then return ([], rest)
    else do
      let (piece, rest) ←
        if c = '$' then readDollar true rest
        else if c = '\x60' then readBackquoted true rest
        else pure (.text [c] true, rest)
      let (w, left) ← readQuoted whole fuel rest
      return (piece :: w, left)

def readWord : Nat → List Char → Parsed (Word × List Char)
  | 0, _ => throw .openQuotation
  | _, [] => return ([], [])
  | fuel + 1, '\\' :: '\n' :: rest => readWord fuel rest
  | fuel + 1, '\\' :: c :: rest => do
    let (w, left) ← readWord fuel rest
    return (.text [c] true :: w, left)
  | fuel + 1, '\x27' :: rest => do
    let quoted := Piece.text (rest.takeWhile (· != '\x27')) true
    match rest.dropWhile (· != '\x27') with
    | [] => throw .openQuotation
    | _ :: rest =>
      let (w, left) ← readWord fuel rest
      return (quoted :: w, left)
  | fuel + 1, '"' :: rest => do
    let (quoted, rest) ← readQuoted false fuel rest
    let (w, left) ← readWord fuel rest
    return (.text [] true :: quoted ++ w, left)
  | fuel + 1, c :: rest =>
    if isBreak c then return ([], c :: rest)
    else if c = '$' || c = '\x60' then do
      let (piece, rest) ← if c = '$' then readDollar false rest else readBackquoted false rest
      let (w, left) ← readWord fuel rest
      return (piece :: w, left)
    else do
      let (w, left) ← readWord fuel rest
      return (consChar c false w, left)

def isQuoted : Piece → Bool
  | .text _ quoted | .value _ quoted | .fallback _ _ _ quoted | .output _ quoted => quoted
  | .length _ | .number _ => false

/-- The characters of a word without any values. -/
def plainChars (w : Word) : List Char :=
  w.flatMap fun
    | .text chars _ => chars
    | _ => []

/-- Takes a document that begins on the next line and ends before the line `stop`. -/
def takeDocument (stop : String) (chars : List Char) : List Char × List Char :=
  let line := chars.takeWhile (· != '\n')
  let lines := Text.splitOn '\n' (.ofList ((chars.dropWhile (· != '\n')).drop 1))
  let body := lines.takeWhile (· != stop)
  let rest := "\n".intercalate ((lines.dropWhile (· != stop)).drop 1)
  (body.flatMap fun text => text.toList ++ ['\n'], line ++ '\n' :: rest.toList)

/-- Reads behind the sign of a document. -/
def readDocument (fuel : Nat) (chars : List Char) : Parsed (Token × List Char) := do
  let (stop, rest) ← readWord fuel (chars.dropWhile fun c => c = ' ' || c = '-')
  let (body, rest) := takeDocument (.ofList (plainChars stop)) rest
  if stop.any isQuoted then return (.document [.text body true], rest)
  else
    let (w, _) ← readQuoted true (body.length + 2) body
    return (.document w, rest)

/-- Reads a redirection of a stream from its sign on, if there is one. -/
def readRedirect (fuel : Nat) (stream : Option Nat) (chars : List Char) :
    Parsed (Option (Token × List Char)) :=
  match chars with
  | '<' :: '<' :: rest => do return some (← readDocument fuel rest)
  | '<' :: rest => return some (.redirect (stream.getD 0) "<", rest)
  | '>' :: '&' :: rest => return some (.redirect (stream.getD 1) ">&", rest)
  | '>' :: '>' :: rest => return some (.redirect (stream.getD 1) ">", rest)
  | '>' :: rest => return some (.redirect (stream.getD 1) ">", rest)
  | _ => return none

def lineBreaks (chars : List Char) : Nat := chars.count '\n'

def readTokens : Nat → Nat → List Char → Parsed (List Token)
  | 0, _, _ => throw .openQuotation
  | _, _, [] => return []
  | fuel + 1, line, chars =>
    let signed (text : String) (rest : List Char) : Parsed (List Token) := do
      return .sign text :: (← readTokens fuel line rest)
    match chars with
    | [] => return []
    | '\\' :: '\n' :: rest => readTokens fuel (line + 1) rest
    | '\n' :: rest => do return .sign "\n" :: (← readTokens fuel (line + 1) rest)
    | ';' :: ';' :: rest => signed ";;" rest
    | '&' :: '&' :: rest => signed "&&" rest
    | '|' :: '|' :: rest => signed "||" rest
    | c :: rest =>
      if c = ' ' || c = '\t' then readTokens fuel line rest
      else if c = '#' then readTokens fuel line (rest.dropWhile (· != '\n'))
      else if [';', '&', '|', '(', ')'].contains c then signed (.singleton c) rest
      else do
        let stream := if c.isDigit then some (c.toNat - '0'.toNat) else none
        match ← readRedirect fuel stream (if c.isDigit then rest else chars) with
        | some (token, rest) => return token :: (← readTokens fuel line rest)
        | none =>
          let (w, left) ← readWord fuel chars
          let next := line + (lineBreaks chars - lineBreaks left)
          return .word line w :: (← readTokens fuel next left)

/-- The tokens of a script. -/
def tokens (script : List Char) : Parsed (List Token) :=
  readTokens (script.length + 2) 1 script

end ClusterHealth.Rehearsal.Shell
