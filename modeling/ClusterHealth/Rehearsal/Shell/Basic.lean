/-! Commands of a shell. -/
namespace ClusterHealth.Rehearsal.Shell

inductive Parameter where
  | name (s : String)
  /-- An argument by its place; zero is the shell itself. -/
  | place (n : Nat)
  /-- All arguments, each for itself. -/
  | each
  /-- All arguments with blanks between them. -/
  | all
  | count
  | status
  /-- The number of the shell's process. -/
  | process
  deriving DecidableEq

/-- Quoted characters stand for themselves, and quoted values are not cut into fields. -/
inductive Piece where
  | text (chars : List Char) (quoted : Bool)
  | value (p : Parameter) (quoted : Bool)
  /-- A value, or the words of a text if it is not set, or is empty where that counts as well. -/
  | fallback (p : Parameter) (emptyToo : Bool) (text : List Char) (quoted : Bool)
  /-- The number of characters of a value. -/
  | length (p : Parameter)
  /-- What a script prints. -/
  | output (script : List Char) (quoted : Bool)
  /-- What a formula comes to. -/
  | number (formula : List Char)
  deriving DecidableEq

abbrev Word := List Piece

/-- What happens to a stream, which is known by its number. -/
inductive Redirection where
  | copy (stream source : Nat)
  | write (stream : Nat) (path : Word)
  | read (path : Word)
  | text (content : Word)

structure Simple where
  line : Nat
  assignments : List (String × Word)
  words : List Word

inductive Command where
  | simple (s : Simple)
  | pipe (stages : List Command)
  | negated (c : Command)
  /-- The second one runs if the first one succeeds, or else if it fails. -/
  | both (first second : Command)
  | either (first second : Command)
  | group (body : List Command)
  /-- Runs beside the commands that follow. -/
  | background (c : Command)
  /-- Gives a name to a command. -/
  | define (name : String) (body : Command)
  /-- The body is run again and again while the condition succeeds, or else while it fails. -/
  | loop (succeeds : Bool) (condition body : List Command)
  | branch (condition body otherwise : List Command)
  /-- The commands behind the first pattern that the word matches. -/
  | choice (word : Word) (cases : List (List Word × List Command))
  | each (name : String) (words : List Word) (body : List Command)
  | redirected (c : Command) (redirections : List Redirection)

/-- Why a script is no list of commands. -/
inductive Mistake where
  | openQuotation
  | openBackquote
  | openBrace
  | openFormula
  | badParameter
  | badDescriptor
  | badLoopName
  /-- Something stands where something else is expected. -/
  | unexpected (found : String) (expected : Option String)
  deriving DecidableEq

def Mistake.message : Mistake → String
  | .openQuotation => "Syntax error: Unterminated quoted string"
  | .openBackquote => "Syntax error: EOF in backquote substitution"
  | .openBrace => "Syntax error: Missing '\x7d'"
  | .openFormula => "Syntax error: Missing '))'"
  | .badParameter => "Bad substitution"
  | .badDescriptor => "Syntax error: Bad fd number"
  | .badLoopName => "Syntax error: Bad for loop variable"
  | .unexpected found none => s!"Syntax error: {found} unexpected"
  | .unexpected found (some expected) =>
    s!"Syntax error: {found} unexpected (expecting \"{expected}\")"

/-- What has been read, unless there is a mistake. -/
abbrev Parsed := Except Mistake

/-- The end of a script. -/
def endOfFile : String := "end of file"

end ClusterHealth.Rehearsal.Shell
