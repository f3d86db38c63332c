import ClusterHealth.Rehearsal.Programs
import ClusterHealth.Rehearsal.Shell.Signal
import ClusterHealth.Rehearsal.Shell.State
import ClusterHealth.Rehearsal.Shell.Token

/-! Commands that a shell carries out itself and that run no others. -/
namespace ClusterHealth.Rehearsal.Shell.Builtin
open Text (Bytes)

/-- A command with a shell's streams, the line where it stands, and its arguments. -/
abbrev Action := State → Streams → Nat → List String → State

/-- The largest number that an argument may be. -/
def numberBound : Nat := Nat.pow 2 31 - 1

/-- The number that an argument is. -/
def number? (text : String) : Option Nat :=
  let chars := text.toList.dropWhile Text.isBlank
  let digits := if chars.head? = some '+' then chars.tail else chars
  if digits.isEmpty || !digits.all Decimal.isDigit then none
  else
    let n := Decimal.natOfDigits digits
    if n ≤ numberBound then some n else none

/-! Ways out. -/

def exit : Action := fun s streams line args =>
  match args with
  | [] => { s with ended := some (.code s.status) }
  | text :: _ =>
    match number? text with
    | some n => { s with ended := some (.code (n % 256)), status := n % 256 }
    | none => s.abort streams line s!"exit: Illegal number: {text}"

/-- Leaves a function, or else the shell. -/
def leaveFunction : Action := fun s streams line args =>
  let finish (s : State) : State :=
    if s.calls = 0 then { s with ended := some (.code s.status) }
    else { s with leaving := some .function }
  match args with
  | [] => finish s
  | text :: _ =>
    match number? text with
    | some n => finish (s.withStatus (n % 256))
    | none => s.abort streams line s!"return: Illegal number: {text}"

/-- Leaves as many loops as an argument says, or begins the next round of the outermost of them. -/
def leaveLoop (name : String) (again : Bool) : Action := fun s streams line args =>
  let text := args.headD "1"
  match number? text with
  | some (n + 1) =>
    if s.loops = 0 then s.withStatus 0
    else { s with leaving := some (.loop (min n (s.loops - 1)) again), status := 0 }
  | _ => s.abort streams line s!"{name}: Illegal number: {text}"

/-! Signals. -/

inductive KillRequest where
  | send (signal : Nat) (targets : List String)
  | list (numbers : List String)

def killUsage : String :=
  "Usage: kill [-s sigspec | -signum | -sigspec] [pid | job]... or\nkill -l [exitstatus]"

/-- Reads options one by one. -/
def killOptions (signal : Option Nat) (list : Bool) : List String → Except String KillRequest
  | [] => finish signal list []
  | [arg] =>
    match arg.toList with
    | ['-', '-'] => finish signal list []
    | ['-', 'l'] => finish signal true []
    | ['-', 's'] => .error "No arg for -s option"
    | '-' :: 's' :: name => do finish (← named (.ofList name)) list []
    | '-' :: 'l' :: c :: _ | '-' :: c :: _ => .error s!"Illegal option -{Char.toString c}"
    | _ => finish signal list [arg]
  | arg :: next :: rest =>
    match arg.toList with
    | ['-', '-'] => finish signal list (next :: rest)
    | ['-', 'l'] => killOptions signal true (next :: rest)
    | ['-', 's'] => do killOptions (← named next) list rest
    | '-' :: 's' :: name => do killOptions (← named (.ofList name)) list (next :: rest)
    | '-' :: 'l' :: c :: _ | '-' :: c :: _ => .error s!"Illegal option -{Char.toString c}"
    | _ => finish signal list (arg :: next :: rest)
where
  named (text : String) : Except String (Option Nat) :=
    match Signal.named? 1 text with
    | some n => .ok (some n)
    | none => .error s!"invalid signal number or name: {text}"
  finish (signal : Option Nat) (list : Bool) (args : List String) : Except String KillRequest :=
    match list, signal with
    | true, none => .ok (.list args)
    | true, some _ => .error killUsage
    | false, signal => if args.isEmpty then .error killUsage else .ok (.send (signal.getD 15) args)

def killRequest (args : List String) : Except String KillRequest :=
  match args with
  | [] => .error killUsage
  | arg :: rest =>
    match (Text.after? arg "-").bind (Signal.named? 1) with
    | some n => if rest.isEmpty then .error killUsage else .ok (.send n rest)
    | none => killOptions none false args

/-- Sends a signal to the processes with some numbers. The first shell is the only one that is
there. -/
def send (s : State) (streams : Streams) (line signal : Nat) : List String → State
  | [] => s
  | target :: rest =>
    match number? target with
    | none =>
      let reason := if Text.startsWith target "%" then "No such job" else "Illegal number"
      let shown := (Text.after? target "-").getD target
      (s.complain streams line s!"kill: {reason}: {shown}").withStatus 2
    | some n =>
      if n = processNumber then send { s with sent := s.sent ++ [signal] } streams line signal rest
      else
        let s := s.complain streams line "kill: No such process\n"
        send (s.withStatus 1) streams line signal rest

/-- Names of signals by their numbers, or by the codes that stand for endings by them. -/
def listSignals (s : State) (streams : Streams) (line : Nat) : List String → State
  | [] =>
    let names := "0" :: ((List.range Signal.last).map fun n => Signal.name (n + 1))
    s.print streams.out (Text.encodeUtf8 (String.join (names.map (· ++ "\n"))))
  | text :: _ =>
    match number? text with
    | none => (s.complain streams line s!"kill: Illegal number: {text}").withStatus 2
    | some n =>
      let n := if 128 < n then n - 128 else n
      if 0 < n ∧ n ≤ Signal.last then s.print streams.out (Text.encodeUtf8 (Signal.name n ++ "\n"))
      else
        (s.complain streams line
          s!"kill: invalid signal number or exit status: {text}").withStatus 2

def kill : Action := fun s streams line args =>
  match killRequest args with
  | .error reason => (s.complain streams line s!"kill: {reason}").withStatus 2
  | .ok (.send signal targets) => send (s.withStatus 0) streams line signal targets
  | .ok (.list numbers) => listSignals (s.withStatus 0) streams line numbers

/-- Says what is run when signals arrive. -/
def setTraps (action : Option String) (s : State) (streams : Streams) : List String → State
  | [] => s
  | text :: rest =>
    match Signal.named? 0 text with
    | none => (s.print streams.err (Text.encodeUtf8 s!"trap: {text}: bad trap\n")).withStatus 1
    | some n =>
      let others := s.traps.filter (·.1 ≠ n)
      let traps := match action with
        | none | some "-" => others
        | some script => (n, script.toList) :: others
      setTraps action { s with traps } streams rest

def trapLine : Nat × List Char → String
  | (n, script) => s!"trap -- '{String.ofList script}' {Signal.name n}\n"

def trap : Action := fun s streams _ args =>
  let s := s.withStatus 0
  let args := if args.head? = some "--" then args.tail else args
  match args with
  | [] =>
    let known := (List.range (Signal.last + 1)).filterMap fun n => s.traps.find? (·.1 = n)
    s.print streams.out (Text.encodeUtf8 (String.join (known.map trapLine)))
  | [signal] => setTraps none s streams [signal]
  | action :: signals =>
    if action.toList.all Decimal.isDigit && !action.isEmpty then
      setTraps none s streams (action :: signals)
    else setTraps (some action) s streams signals

/-! Printing. -/

/-- The shell's own printing knows escapes always. -/
def echo : Action := fun s streams _ args =>
  let bytes := match args with
    | "-n" :: words => Program.echoWords (some Dialect.text.shell) false words
    | words => Program.echoWords (some Dialect.text.shell) true words
  (s.print streams.out bytes).withStatus 0

def printf : Action := fun s streams line args =>
  match args with
  | [] | ["--"] => (s.complain streams line "printf: usage: printf format [arg ...]").withStatus 2
  | "--" :: format :: args => run s streams line format args
  | format :: args =>
    match format.toList with
    | '-' :: c :: _ =>
      (s.complain streams line s!"printf: Illegal option -{Char.toString c}").withStatus 2
    | _ => run s streams line format args
where
  run (s : State) (streams : Streams) (line : Nat) (format : String) (args : List String) :
      State :=
    let o := Printf.print .shell format args
    let s := o.complaints.foldl
      (fun s c => s.complain streams line (Printf.Printer.shell.message c).1) s
    (s.print streams.out o.bytes).withStatus (o.code .shell)

/-! Values and options. -/

/-- Letters of options. -/
def optionLetters : List Char := "efIimnsxvVECabu".toList

/-- Turns options on or off; `none` at a letter that stands for none. -/
def setOptions (s : State) (on : Bool) : List Char → Except Char State
  | [] => .ok s
  | c :: rest =>
    if !optionLetters.contains c then .error c
    else
      let s := if c = 'e' then { s with strict := on }
        else if c = 'u' then { s with strictValues := on } else s
      setOptions s on rest

/-- Changes the shell's options and its arguments. -/
def set : Action := fun s streams line args => change (s.withStatus 0) streams line args
where
  change (s : State) (streams : Streams) (line : Nat) : List String → State
    | [] => s
    | "--" :: args => { s with args }
    | arg :: rest =>
      match arg.toList with
      | sign :: c :: letters =>
        if sign = '-' || sign = '+' then
          match setOptions s (sign = '-') (c :: letters) with
          | .ok s => change s streams line rest
          | .error c => s.abort streams line s!"set: Illegal option -{Char.toString c}"
        else { s with args := arg :: rest }
      | _ => { s with args := arg :: rest }

def isName (text : String) : Bool :=
  match text.toList with
  | c :: rest => isNameStart c && rest.all isNameChar
  | [] => false

/-- Gives values to names. Programs know all names of the shell. -/
def assign (command : String) : Action := fun s streams line args =>
  args.foldl (fun s arg =>
    if s.ended.isSome then s
    else
      let (name, value) := arg.toList.span (· ≠ '=')
      if !isName (.ofList name) then
        s.abort streams line s!"{command}: {String.ofList name}: bad variable name"
      else if value.isEmpty then s
      else s.assign (.ofList name) (.ofList value.tail)) (s.withStatus 0)

def unset : Action := fun s streams line args =>
  let names := args.filter (!Text.startsWith · "-")
  names.foldl (fun s name =>
    if s.ended.isSome then s
    else if !isName name then s.abort streams line s!"unset: {name}: bad variable name"
    else
      let env := s.machine.env.filter (·.1 ≠ name)
      { s with
        machine := { s.machine with env }, functions := s.functions.filter (·.1 ≠ name) })
    (s.withStatus 0)

def shift : Action := fun s streams line args =>
  let text := args.headD "1"
  match number? text with
  | none => s.abort streams line s!"shift: Illegal number: {text}"
  | some n =>
    if s.args.length < n then s.abort streams line "shift: can't shift that many"
    else { s with args := s.args.drop n, status := 0 }

/-- The shell's words for what is wrong with a condition. -/
def oddityText : Program.Oddity → String
  | .notNumber word => s!"Illegal number: {word}"
  | .openEnd first last =>
    if Program.isComparison last then s!"{last}: argument expected"
    else s!"{first}: unexpected operator"
  | .option word | .operator word _ => s!"{word}: unexpected operator"

def condition (name : String) (words : List String) : Action := fun s streams line _ =>
  match Program.oddity? words with
  | some oddity => (s.complain streams line s!"{name}: {oddityText oddity}").withStatus 2
  | none => s.withStatus (if Program.holds s.machine words then 0 else 1)

def test : Action := fun s streams line args => condition "test" args s streams line []

def bracket : Action := fun s streams line args =>
  if args.getLast? = some "]" then condition "[" args.dropLast s streams line []
  else (s.complain streams line "[: missing ]").withStatus 2

/-- Directories are looked for, but the shell stays where it is. -/
def changeDir : Action := fun s streams line args =>
  match args with
  | path :: _ =>
    if s.machine.isDir path then s.withStatus 0
    else (s.complain streams line s!"cd: can't cd to {path}").withStatus 2
  | [] => s.withStatus 0

/-- The bits that no new file has. -/
def umask : Action := fun s streams _ args =>
  (if args.isEmpty then s.print streams.out (Text.encodeUtf8 "0022\n") else s).withStatus 0

/-- Commands that change nothing that is known of. -/
def pass : Action := fun s _ _ _ => s.withStatus 0

/-- The commands by their names. -/
def table : List (String × Action) := [
  (":", pass), ("true", pass), ("false", fun s _ _ _ => s.withStatus 1),
  ("exit", exit), ("return", leaveFunction), ("break", leaveLoop "break" false),
  ("continue", leaveLoop "continue" true), ("kill", kill), ("trap", trap), ("echo", echo),
  ("printf", printf), ("set", set), ("export", assign "export"), ("readonly", assign "readonly"),
  ("unset", unset), ("shift", shift), ("test", test), ("[", bracket), ("wait", pass),
  ("ulimit", pass), ("umask", umask), ("cd", changeDir), ("alias", pass), ("times", pass)]

end ClusterHealth.Rehearsal.Shell.Builtin
