import ClusterHealth.Rehearsal.Shell.Token

/-! Tokens as commands. Every step spends one unit of fuel. -/
namespace ClusterHealth.Rehearsal.Shell

/-- What was read, and the tokens behind it. -/
abbrev Scanned (α : Type) := α × List Token

/-- The text of a word in which nothing is quoted or stands for a value. -/
def bare? : Token → Option String
  | .word _ [.text chars false] => some (.ofList chars)
  | _ => none

/-- Words that end a list of commands. -/
def closers : List String := ["then", "else", "elif", "fi", "do", "done", "esac", "\x7d"]

def endsList : List Token → Bool
  | [] => true
  | .sign s :: _ => s = ")" || s = ";;"
  | token :: _ => (bare? token).any closers.contains

/-- Drops line breaks. -/
def skipLines : List Token → List Token
  | .sign "\n" :: rest => skipLines rest
  | tokens => tokens

/-- A token as a mistake shows it. -/
def shown : List Token → String
  | [] => endOfFile
  | .sign "\n" :: _ => "newline"
  | .sign text :: _ => s!"\"{text}\""
  | .redirect .. :: _ | .document _ :: _ => "redirection"
  | token :: _ =>
    match bare? token with
    | some text => if closers.contains text then s!"\"{text}\"" else "word"
    | none => "word"

def unexpected (tokens : List Token) (expected : Option String) : Parsed α :=
  throw (.unexpected (shown tokens) expected)

/-- Takes a certain word, if it is there. -/
def expect? (text : String) : List Token → Option (List Token)
  | token :: rest => if bare? token = some text then some rest else none
  | [] => none

def expect (text : String) (tokens : List Token) : Parsed (List Token) :=
  match expect? text tokens with
  | some rest => return rest
  | none => unexpected tokens (some text)

def expectSign? (text : String) : List Token → Option (List Token)
  | .sign s :: rest => if s = text then some rest else none
  | _ => none

def expectSign (text : String) (tokens : List Token) : Parsed (List Token) :=
  match expectSign? text tokens with
  | some rest => return rest
  | none => unexpected tokens (some text)

/-- Takes a redirection, if one is there. -/
def readRedirection : List Token → Parsed (Option (Scanned Redirection))
  | .document w :: rest => return some (.text w, rest)
  | .redirect stream ">&" :: .word _ w :: rest =>
    match plainChars w with
    | [c] => if c.isDigit then return some (.copy stream (c.toNat - '0'.toNat), rest)
      else throw .badDescriptor
    | _ => throw .badDescriptor
  | .redirect _ "<" :: .word _ w :: rest => return some (.read w, rest)
  | .redirect stream _ :: .word _ w :: rest => return some (.write stream w, rest)
  | .redirect .. :: rest => unexpected rest none
  | _ => return none

def readRedirections : Nat → List Token → Parsed (Scanned (List Redirection))
  | 0, tokens => return ([], tokens)
  | fuel + 1, tokens => do
    match ← readRedirection tokens with
    | none => return ([], tokens)
    | some (r, rest) =>
      let (others, rest) ← readRedirections fuel rest
      return (r :: others, rest)

def quoted : Piece → Piece
  | .text chars _ => .text chars true
  | .value p _ => .value p true
  | .fallback p emptyToo text _ => .fallback p emptyToo text true
  | .output script _ => .output script true
  | piece => piece

/-- The name and the value that a word assigns. A value is one field. -/
def assignment? : Word → Option (String × Word)
  | .text (c :: chars) false :: pieces =>
    let name := (c :: chars).takeWhile isNameChar
    match (c :: chars).dropWhile isNameChar with
    | '=' :: rest =>
      if isNameStart c then some (.ofList name, .text rest true :: pieces.map quoted) else none
    | _ => none
  | _ => none

/-- Takes words and redirections as long as there are any. -/
def readSimple : Nat → List Token → Parsed (List Word × List Redirection × List Token)
  | 0, tokens => return ([], [], tokens)
  | fuel + 1, .word _ w :: rest => do
    let (words, redirections, rest) ← readSimple fuel rest
    return (w :: words, redirections, rest)
  | fuel + 1, tokens => do
    match ← readRedirection tokens with
    | none => return ([], [], tokens)
    | some (r, rest) =>
      let (words, redirections, rest) ← readSimple fuel rest
      return (words, r :: redirections, rest)

def withRedirections (c : Command) (redirections : List Redirection) : Command :=
  if redirections.isEmpty then c else .redirected c redirections

/-- A command of nothing but words and redirections. -/
def simpleCommand (fuel : Nat) (tokens : List Token) : Parsed (Scanned Command) := do
  let line := match tokens with
    | .word line _ :: _ => line
    | _ => 1
  let (words, redirections, rest) ← readSimple fuel tokens
  if words.isEmpty && redirections.isEmpty then unexpected rest none
  else
    let isAssignment (w : Word) := (assignment? w).isSome
    let assignments := (words.takeWhile isAssignment).filterMap assignment?
    let simple : Simple := ⟨line, assignments, words.dropWhile isAssignment⟩
    return (withRedirections (.simple simple) redirections, rest)

/-- Takes patterns with bars between them, and the parenthesis behind them. -/
def readPatterns : Nat → List Token → Parsed (Scanned (List Word))
  | fuel + 1, .word _ w :: .sign "|" :: rest => do
    let (words, rest) ← readPatterns fuel rest
    return (w :: words, rest)
  | _, .word _ w :: rest => do return ([w], ← expectSign ")" rest)
  | _, tokens => unexpected tokens (some ")")

/-- Takes words up to the end of a line. -/
def readItems : List Token → List Word × List Token
  | .word _ w :: rest =>
    let (words, rest) := readItems rest
    (w :: words, rest)
  | tokens => ([], tokens)

mutual

/-- Takes commands up to a word or a sign that ends the list. -/
def readList : Nat → List Token → Parsed (Scanned (List Command))
  | 0, tokens => unexpected tokens none
  | fuel + 1, tokens => do
    let tokens := skipLines tokens
    if endsList tokens then return ([], tokens)
    let (c, rest) ← readChain fuel tokens
    match rest with
    | .sign s :: more =>
      if s = ";" || s = "\n" || s = "&" then
        let (others, rest) ← readList fuel more
        return ((if s = "&" then .background c else c) :: others, rest)
      else return ([c], rest)
    | _ => return ([c], rest)

/-- Takes commands of which one depends on the one before. -/
def readChain : Nat → List Token → Parsed (Scanned Command)
  | 0, tokens => unexpected tokens none
  | fuel + 1, tokens => do
    let (c, rest) ← readPipe fuel tokens
    readChained fuel c rest

def readChained : Nat → Command → List Token → Parsed (Scanned Command)
  | 0, _, tokens => unexpected tokens none
  | fuel + 1, c, tokens =>
    match tokens with
    | .sign "&&" :: rest => do
      let (next, rest) ← readPipe fuel (skipLines rest)
      readChained fuel (.both c next) rest
    | .sign "||" :: rest => do
      let (next, rest) ← readPipe fuel (skipLines rest)
      readChained fuel (.either c next) rest
    | tokens => return (c, tokens)

def readPipe : Nat → List Token → Parsed (Scanned Command)
  | 0, tokens => unexpected tokens none
  | fuel + 1, tokens => do
    if let some rest := expect? "!" tokens then
      let (c, rest) ← readPipe fuel rest
      return (.negated c, rest)
    let (stages, rest) ← readStages fuel tokens
    match stages with
    | [c] => return (c, rest)
    | stages => return (.pipe stages, rest)

def readStages : Nat → List Token → Parsed (Scanned (List Command))
  | 0, tokens => unexpected tokens none
  | fuel + 1, tokens => do
    let (c, rest) ← readCommand fuel tokens
    match rest with
    | .sign "|" :: rest =>
      let (others, rest) ← readStages fuel (skipLines rest)
      return (c :: others, rest)
    | rest => return ([c], rest)

def readCommand : Nat → List Token → Parsed (Scanned Command)
  | 0, tokens => unexpected tokens none
  | fuel + 1, tokens =>
    match tokens with
    | .sign "(" :: rest => do
      let (body, rest) ← readList fuel rest
      let (redirections, rest) ← readRedirections fuel (← expectSign ")" rest)
      return (withRedirections (.pipe [.group body]) redirections, rest)
    | token :: rest =>
      match bare? token with
      | some "\x7b" => do
        let (body, rest) ← readList fuel rest
        let (redirections, rest) ← readRedirections fuel (← expect "\x7d" rest)
        return (withRedirections (.group body) redirections, rest)
      | some "if" => do
        let (c, rest) ← readBranch fuel rest
        let (redirections, rest) ← readRedirections fuel rest
        return (withRedirections c redirections, rest)
      | some "while" => readLoop fuel true rest
      | some "until" => readLoop fuel false rest
      | some "case" => do
        let .word _ w :: rest := rest | unexpected rest none
        let rest ← expect "in" (skipLines rest)
        let (cases, rest) ← readCases fuel (skipLines rest)
        let (redirections, rest) ← readRedirections fuel rest
        return (withRedirections (.choice w cases) redirections, rest)
      | some "for" => do
        let some name := rest.head?.bind bare? | throw .badLoopName
        let (words, rest) := readItems (← expect "in" rest.tail)
        let .sign _ :: rest := rest | unexpected rest none
        let (body, rest) ← readList fuel (← expect "do" (skipLines rest))
        let (redirections, rest) ← readRedirections fuel (← expect "done" rest)
        return (withRedirections (.each name words body) redirections, rest)
      | some name =>
        if closers.contains name then unexpected tokens none
        else
          match rest with
          | .sign "(" :: rest => do
            let (body, rest) ← readCommand fuel (skipLines (← expectSign ")" rest))
            return (.define name body, rest)
          | _ => simpleCommand tokens.length tokens
      | none => simpleCommand tokens.length tokens
    | [] => unexpected [] none

/-- Takes what stands behind `while` or `until`. -/
def readLoop : Nat → Bool → List Token → Parsed (Scanned Command)
  | 0, _, tokens => unexpected tokens none
  | fuel + 1, succeeds, tokens => do
    let (condition, rest) ← readList fuel tokens
    let (body, rest) ← readList fuel (← expect "do" rest)
    let (redirections, rest) ← readRedirections fuel (← expect "done" rest)
    return (withRedirections (.loop succeeds condition body) redirections, rest)

/-- Takes what stands behind `if` or `elif`. -/
def readBranch : Nat → List Token → Parsed (Scanned Command)
  | 0, tokens => unexpected tokens none
  | fuel + 1, tokens => do
    let (condition, rest) ← readList fuel tokens
    let (body, rest) ← readList fuel (← expect "then" rest)
    if let some rest := expect? "elif" rest then
      let (otherwise, rest) ← readBranch fuel rest
      return (.branch condition body [otherwise], rest)
    if let some rest := expect? "else" rest then
      let (otherwise, rest) ← readList fuel rest
      return (.branch condition body otherwise, ← expect "fi" rest)
    return (.branch condition body [], ← expect "fi" rest)

def readCases : Nat → List Token → Parsed (Scanned (List (List Word × List Command)))
  | 0, tokens => unexpected tokens none
  | fuel + 1, tokens => do
    if let some rest := expect? "esac" tokens then return ([], rest)
    let tokens := (expectSign? "(" tokens).getD tokens
    let (patterns, rest) ← readPatterns tokens.length tokens
    let (body, rest) ← readList fuel rest
    let rest ← if (expect? "esac" rest).isSome then pure rest else expectSign ";;" rest
    let (others, rest) ← readCases fuel (skipLines rest)
    return ((patterns, body) :: others, rest)

end

/-- Reads a whole script. -/
def read (script : List Char) : Parsed (List Command) := do
  let tokens ← tokens script
  match ← readList (8 * tokens.length + 8) tokens with
  | (commands, []) => return commands
  | (_, rest) => unexpected rest none

end ClusterHealth.Rehearsal.Shell
