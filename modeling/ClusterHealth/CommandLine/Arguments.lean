import ClusterHealth.Decimal.Reading
import ClusterHealth.Harness
import ClusterHealth.Text.Affix

/-!
Arguments of the command line. A value, or a run of services, is judged only when something else
follows it, so that of several faults the first one that comes to light counts.
-/
namespace ClusterHealth.CommandLine

inductive Command where
  | test (services : List ServiceKey) (options : RunOptions)
  | services

structure Arguments where
  command : Command
  /-- An additional configuration file. -/
  config : Option String
  json : Bool

/-- Where in the command line an argument stands. -/
inductive Level where
  | top
  | test
  | services
  deriving DecidableEq

/-- Why arguments do not lead to a run. -/
inductive Refusal where
  | displayHelp (level : Level)
  | displayHelpOnMissingCommand
  | displayVersion
  | unknownArgument
  | invalidCommand
  | missingCommand
  | missingRequiredArgument
  | argumentConflict
  | invalidValue
  | valueValidation
  | tooManyValues
  deriving DecidableEq

inductive Switch where
  | json
  | includeCommands
  | noRetry
  | help
  | version
  deriving DecidableEq

inductive Setting where
  | config
  | timeout
  deriving DecidableEq

/-- An option without or with a value. -/
inductive Flag where
  | switch (s : Switch)
  | setting (s : Setting)

/-- The option with a long name, if the level has it. -/
def Level.long? (level : Level) (name : String) : Option Flag :=
  match name with
  | "config" => some (.setting .config)
  | "json" => some (.switch .json)
  | "help" => some (.switch .help)
  | "version" => if level = .top then some (.switch .version) else none
  | "include-cli" => if level = .test then some (.switch .includeCommands) else none
  | "no-retry" => if level = .test then some (.switch .noRetry) else none
  | "timeout" => if level = .test then some (.setting .timeout) else none
  | _ => none

def Level.short? (level : Level) : Char → Option Flag
  | 'c' => some (.setting .config)
  | 'j' => some (.switch .json)
  | 'h' => some (.switch .help)
  | 'V' => if level = .top then some (.switch .version) else none
  | _ => none

/-- What has not been judged yet. -/
inductive Pending where
  | nothing
  | setting (s : Setting) (value : Option String)
  | services (texts : List String)

/-- What has been read so far on one level. -/
structure Progress where
  config : Option String := none
  timeout : Option Nat := none
  switches : List Switch := []
  services : List ServiceKey := []
  pending : Pending := .nothing
  /-- Behind two dashes everything is a plain word. -/
  plain : Bool := false

abbrev Step := Except Refusal Progress

/-- A number of 64 bits from one on; a plus may stand before it. -/
def readTimeout? (text : String) : Option Nat :=
  match Decimal.readInt? text.toList with
  | some n => if 1 ≤ n ∧ n < Nat.pow 2 64 then some n.toNat else none
  | none => none

namespace Progress

def give (p : Progress) (s : Setting) (value : String) : Step :=
  match s with
  | .config =>
    if p.config.isSome then .error .argumentConflict
    else if value.isEmpty then .error .invalidValue
    else .ok { p with config := some value }
  | .timeout =>
    if p.timeout.isSome then .error .argumentConflict
    else
      match readTimeout? value with
      | some seconds => .ok { p with timeout := some seconds }
      | none => .error .valueValidation

/-- Judges what is pending. -/
def resolve (p : Progress) : Step :=
  let settled := { p with pending := .nothing }
  match p.pending with
  | .nothing => .ok settled
  | .setting _ none => .error .invalidValue
  | .setting s (some value) => settled.give s value
  | .services texts =>
    match texts.mapM ServiceKey.parse? with
    | some keys => .ok { settled with services := p.services ++ keys }
    | none => .error .valueValidation

/-- Turns a switch on, which is done once at most. -/
def turnOn (p : Progress) (level : Level) (s : Switch) : Step := do
  let p ← p.resolve
  if s = .help then throw (.displayHelp level)
  if s = .version then throw .displayVersion
  if s ∈ p.switches then throw .argumentConflict
  return { p with switches := s :: p.switches }

/-- Takes an option whose value, if any, follows. -/
def await (p : Progress) (s : Setting) : Step := do
  return { ← p.resolve with pending := .setting s none }

/-- Takes an option together with its value. -/
def assign (p : Progress) (s : Setting) (value : String) : Step := do (← p.resolve).give s value

/-- Takes an option by its long name. -/
def takeLong (p : Progress) (level : Level) (name : String) (value : Option String) : Step :=
  match level.long? name, value with
  | none, _ => .error .unknownArgument
  | some (.switch _), some _ => .error .tooManyValues
  | some (.switch s), none => p.turnOn level s
  | some (.setting s), some value => p.assign s value
  | some (.setting s), none => p.await s

/-- The value that directly follows the letter of an option, with or without an equals sign. -/
def attached : List Char → String
  | '=' :: rest => .ofList rest
  | rest => .ofList rest

/-- Takes options by their letters, of which only the last one can have a value. -/
def takeShort (p : Progress) (level : Level) : List Char → Step
  | [] => .ok p
  | c :: rest =>
    match level.short? c with
    | none => .error .unknownArgument
    | some (.switch s) => do (← p.turnOn level s).takeShort level rest
    | some (.setting s) => if rest.isEmpty then p.await s else p.assign s (attached rest)

/-- Takes a service, which joins those directly before it. -/
def takeService (p : Progress) (text : String) : Step :=
  match p.pending with
  | .services texts => .ok { p with pending := .services (texts ++ [text]) }
  | _ => do return { ← p.resolve with pending := .services [text] }

def awaits (p : Progress) : Bool := !p.plain && p.pending matches .setting _ none

/-- Takes the value of the option before it. -/
def takeValue (p : Progress) (text : String) : Progress :=
  match p.pending with
  | .setting s _ => { p with pending := .setting s (some text) }
  | _ => p

end Progress

/-- How an argument is written. -/
inductive Word where
  | dashes
  | long (name : String) (value : Option String)
  | short (letters : List Char)
  | plain

/-- A long name, with the value behind an equals sign if there is one. -/
def splitLong (chars : List Char) : String × Option String :=
  let name := chars.takeWhile (· != '=')
  match chars.dropWhile (· != '=') with
  | [] => (.ofList name, none)
  | _ :: value => (.ofList name, some (.ofList value))

def Word.ofText (text : String) : Word :=
  match text.toList with
  | ['-', '-'] => .dashes
  | '-' :: '-' :: rest =>
    let (name, value) := splitLong rest
    .long name value
  | '-' :: c :: rest => .short (c :: rest)
  | _ => .plain

def commandNames : List String := ["test", "services", "help"]

/-- Takes one argument, where `takePlain` says what a plain word means. -/
def takeWord (level : Level) (takePlain : Progress → String → Step) (p : Progress)
    (text : String) : Step :=
  if p.plain then takePlain p text
  else
    match Word.ofText text with
    | .dashes => .ok { p with plain := true }
    | .long name value => p.takeLong level name value
    | .short letters => p.takeShort level letters
    | .plain => if p.awaits then .ok (p.takeValue text) else takePlain p text

/-- Takes the arguments behind a command. -/
def readRest (level : Level) (takePlain : Progress → String → Step) (args : List String) :
    Step := do
  (← args.foldlM (takeWord level takePlain) {}).resolve

def Progress.has (p : Progress) (s : Switch) : Bool := p.switches.contains s

def readTest (args : List String) : Except Refusal (Command × Progress) := do
  let p ← readRest .test Progress.takeService args
  if p.services.isEmpty then throw .missingRequiredArgument
  let options : RunOptions := ⟨p.has .includeCommands, p.has .noRetry, p.timeout⟩
  return (.test p.services options, p)

def readServices (args : List String) : Except Refusal (Command × Progress) := do
  let p ← readRest .services (fun _ _ => .error .unknownArgument) args
  return (.services, p)

/-- Behind `help` stands nothing or one command. -/
def readHelp : List String → Refusal
  | [] | ["help"] => .displayHelp .top
  | ["test"] => .displayHelp .test
  | ["services"] => .displayHelp .services
  | _ => .invalidCommand

def readCommand (name : String) (args : List String) : Except Refusal (Command × Progress) :=
  match name with
  | "test" => readTest args
  | "services" => readServices args
  | _ => .error (readHelp args)

/-- A plain word in the place of a command. -/
def strayWord (p : Progress) (text : String) : Step :=
  .error (if p.plain && text ∈ commandNames then .unknownArgument else .invalidCommand)

/-- What is given behind the command counts more than what is given before it. -/
def combine (command : Command) (before behind : Progress) : Arguments where
  command := command
  config := behind.config <|> before.config
  json := behind.has .json || before.has .json

def readTop (p : Progress) : List String → Except Refusal Arguments
  | [] => do
    let p ← p.resolve
    throw (if p.config.isNone && p.switches.isEmpty then .displayHelpOnMissingCommand
      else .missingCommand)
  | text :: rest => do
    if text ∈ commandNames && !p.plain && !p.awaits then
      let (command, behind) ← readCommand text rest
      return combine command (← p.resolve) behind
    else
      let p ← takeWord .top strayWord p text
      readTop p rest

/-- Reads all arguments behind the name of the program. -/
def Arguments.parse (args : List String) : Except Refusal Arguments := readTop {} args

end ClusterHealth.CommandLine
