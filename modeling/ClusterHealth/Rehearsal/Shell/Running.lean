import ClusterHealth.Rehearsal.Launch
import ClusterHealth.Rehearsal.Shell.Arithmetic
import ClusterHealth.Rehearsal.Shell.Builtin
import ClusterHealth.Rehearsal.Shell.Invocation
import ClusterHealth.Rehearsal.Shell.Reading

/-! Running commands. Every step from a command to what it consists of spends one unit of fuel. -/
namespace ClusterHealth.Rehearsal.Shell
open Text (Bytes)

/-- Takes over what a program leaves behind, and tells of a signal that has ended it. -/
def absorb (s : State) (streams : Streams) (e : Ending) : State :=
  let s := (s.print streams.out e.stdout).print streams.err e.stderr
  let s := match e.exit with
    | .signal n =>
      if Signal.quiet.contains n then s
      else s.print streams.err (Text.encodeUtf8 (Signal.notice n ++ "\n"))
    | .code _ => s
  s.withStatus (codeOf e.exit)

/-- What a shell says about a program that does not start, and the code that stands for it. A name
without a slash is looked for before it is run. -/
def refusal (name : String) : Obstacle → String × Nat
  | .path .tooLong => ("File name too long", 127)
  | .path _ | .zeroCharacter => ("not found", 127)
  | .denied => ("Permission denied", if name.toList.contains '/' then 126 else 127)
  | .format => ("Exec format error", 126)
  | .argument => ("Argument list too long", 126)

/-- The output of a script without the line breaks at its end. -/
def withoutBreaks (bytes : Bytes) : List Char :=
  ((Text.decodeUtf8Lenient bytes).toList.reverse.dropWhile (· = '\n')).reverse

def sinkOf (streams : Streams) (path : String) : Sink :=
  match path with
  | "/dev/stdout" => streams.out
  | "/dev/stderr" => streams.err
  | _ => .nowhere

def redirect (streams : Streams) (stream : Nat) (sink : Sink) : Streams :=
  match stream with
  | 1 => { streams with out := sink }
  | 2 => { streams with err := sink }
  | _ => streams

mutual

/-- Runs commands until one of them ends the shell. -/
def runList : Nat → Streams → List Command → State → State
  | 0, _, _, s | _, _, [], s => s
  | fuel + 1, streams, c :: rest, s =>
    let s := run fuel streams c s
    if s.stops then s else runList fuel streams rest s

def run : Nat → Streams → Command → State → State
  | 0, _, _, s => s
  | fuel + 1, streams, c, s =>
    match c with
    | .simple simple => (receive fuel (runSimple fuel streams simple s)).settled
    | .pipe stages => (receive fuel (runPipe fuel streams stages s)).settled
    | .background c => (runApart fuel streams c s).withStatus 0
    | .define name body =>
      { s with functions := (name, body) :: s.functions.filter (·.1 ≠ name), status := 0 }
    | .negated c =>
      let s := runCondition fuel streams [c] s
      s.withStatus (if s.status = 0 then 1 else 0)
    | .both first second =>
      let s := runCondition fuel streams [first] s
      if s.status = 0 && !s.stops then run fuel streams second s else s
    | .either first second =>
      let s := runCondition fuel streams [first] s
      if s.status ≠ 0 && !s.stops then run fuel streams second s else s
    | .group body => runList fuel streams body s
    | .loop succeeds condition body =>
      let inner := { s with loops := s.loops + 1 }
      { runLoop fuel streams succeeds condition body 0 inner with loops := s.loops }
    | .branch condition body otherwise =>
      let s := runCondition fuel streams condition s
      if s.stops then s
      else if s.status = 0 then runList fuel streams body s
      else runList fuel streams otherwise (s.withStatus 0)
    | .choice word cases =>
      let (expanded, s) := expandWord fuel streams word s
      runCases fuel streams (text (marks expanded)).toList cases (s.withStatus 0)
    | .each name words body =>
      let (values, s) := expandAll fuel streams words s
      let inner := { s with loops := s.loops + 1, status := 0 }
      { runEach fuel streams name values body inner with loops := s.loops }
    | .redirected c redirections =>
      match redirectAll fuel streams redirections s with
      | (some streams, s) => run fuel streams c s
      | (none, s) => s.withStatus 2

/-- Runs commands that may fail. -/
def runCondition : Nat → Streams → List Command → State → State
  | 0, _, _, s => s
  | fuel + 1, streams, commands, s =>
    { runList fuel streams commands { s with strict := false } with strict := s.strict }

/-- Runs a body as often as its condition says. The status is that of the last time. -/
def runLoop : Nat → Streams → Bool → List Command → List Command → Nat → State → State
  | 0, _, _, _, _, _, s => s
  | fuel + 1, streams, succeeds, condition, body, status, s =>
    let s := runCondition fuel streams condition s
    if s.stops then
      let (again, s) := s.afterRound
      if again then runLoop fuel streams succeeds condition body status s else s
    else if (s.status = 0) ≠ succeeds then s.withStatus status
    else
      let (again, s) := (runList fuel streams body (s.withStatus 0)).afterRound
      if again then runLoop fuel streams succeeds condition body s.status s else s

/-- Runs the commands behind the first pattern that matches. -/
def runCases : Nat → Streams → List Char → List (List Word × List Command) → State → State
  | 0, _, _, _, s | _, _, _, [], s => s
  | fuel + 1, streams, subject, (patterns, body) :: rest, s =>
    let (found, s) := matchesAny fuel streams subject patterns s
    if found then runList fuel streams body s else runCases fuel streams subject rest s

def matchesAny : Nat → Streams → List Char → List Word → State → Bool × State
  | 0, _, _, _, s | _, _, _, [], s => (false, s)
  | fuel + 1, streams, subject, pattern :: rest, s =>
    let (expanded, s) := expandWord fuel streams pattern s
    if matchesPattern (marks expanded) subject then (true, s)
    else matchesAny fuel streams subject rest s

/-- Runs commands for each value. -/
def runEach : Nat → Streams → String → List String → List Command → State → State
  | 0, _, _, _, _, s | _, _, _, [], _, s => s
  | fuel + 1, streams, name, value :: rest, body, s =>
    let (again, s) := (runList fuel streams body (s.assign name value)).afterRound
    if again then runEach fuel streams name rest body s else s

/-- Runs commands of which each one reads what the one before prints. -/
def runPipe : Nat → Streams → List Command → State → State
  | 0, _, _, s | _, _, [], s => s
  | fuel + 1, streams, [c], s => runApart fuel streams c s
  | fuel + 1, streams, c :: rest, s =>
    let stage := close fuel (run fuel { input := streams.input } c s.pipe)
    let s := { s.print streams.err (stage.output .err) with sent := s.sent ++ stage.sent }
    runPipe fuel { streams with input := stage.output .out } rest s

/-- Runs a command that cannot change or end the shell. -/
def runApart : Nat → Streams → Command → State → State
  | 0, _, _, s => s
  | fuel + 1, streams, c, s =>
    let inner := close fuel (run fuel streams c s.fork)
    let s := { s with printed := inner.printed ++ s.printed, sent := s.sent ++ inner.sent }
    absorb s streams ⟨inner.exit, [], []⟩

/-- Signals that have arrived are answered by the first shell between two commands. -/
def receive : Nat → State → State
  | 0, s => s
  | fuel + 1, s =>
    match s.sent with
    | [] => s
    | n :: rest =>
      if s.forked || s.ended.isSome then s
      else
        let s := { s with sent := rest }
        let trap := if Signal.untrappable.contains n then none else s.traps.lookup n
        match trap with
        | none =>
          if Signal.harmless.contains n then receive fuel s
          else { s with ended := some (.signal n), sent := [] }
        | some [] => receive fuel s
        | some script =>
          let after := runScript fuel {} script s
          receive fuel (if after.ended.isSome then after else after.withStatus s.status)

/-- Runs what is to be run at the end. -/
def close : Nat → State → State
  | 0, s => s
  | fuel + 1, s =>
    match s.exit, s.traps.lookup 0 with
    | .code _, some script =>
      let exit := s.exit
      let s := { s with ended := none, leaving := none, status := codeOf exit }
      let s := runScript fuel {} script { s with traps := s.traps.filter (·.1 ≠ 0) }
      { s with ended := some (s.ended.getD exit) }
    | _, _ => s

def redirectAll : Nat → Streams → List Redirection → State → Option Streams × State
  | 0, streams, _, s | _, streams, [], s => (some streams, s)
  | fuel + 1, streams, redirection :: rest, s =>
    match redirection with
    | .copy stream source =>
      if 2 < source then (none, s.complain streams 1 s!"{source}: Bad file descriptor")
      else
        let sink := if source = 1 then streams.out else streams.err
        redirectAll fuel (redirect streams stream sink) rest s
    | .write stream word =>
      let (expanded, s) := expandWord fuel streams word s
      let path := text (marks expanded)
      match s.machine.unwritable? path with
      | some reason => (none, s.complain streams 1 s!"cannot create {path}: {reason}")
      | none => redirectAll fuel (redirect streams stream (sinkOf streams path)) rest s
    | .text content =>
      let (expanded, s) := expandWord fuel streams content s
      let input := Text.encodeUtf8 (text (marks expanded))
      redirectAll fuel { streams with input } rest s
    | .read word =>
      let (expanded, s) := expandWord fuel streams word s
      let path := text (marks expanded)
      match s.machine.file? path with
      | some input => redirectAll fuel { streams with input } rest s
      | none => (none, s.complain streams 1 s!"cannot open {path}: No such file")

def expandPiece : Nat → Streams → Piece → State → List Atom × State
  | 0, _, _, s => ([], s)
  | fuel + 1, streams, piece, s =>
    match piece with
    | .text chars quoted =>
      ((if quoted then [.quote] else []) ++ chars.map (.mark ⟨·, quoted⟩), s)
    | .value p quoted =>
      if s.strictValues && !s.isSet p && s.ended.isNone then
        ([], s.abort streams 1 s!"{p.text}: parameter not set")
      else (s.value p quoted, s)
    | .fallback p emptyToo text quoted =>
      if s.isSet p && !(emptyToo && (s.single p).isEmpty) then (s.value p quoted, s)
      else expandText fuel streams text quoted s
    | .length p => (atoms true (toString (s.single p).length).toList, s)
    | .number formula =>
      let (expanded, s) := expandText fuel streams formula true s
      let value (name : String) := Printf.number (s.single (.name name))
      match Arithmetic.evaluate? value ((marks expanded).map (·.char)) with
      | some n => (atoms true (toString n).toList, s)
      | none => ([], { s with ended := some (.code 2) })
    | .output script quoted =>
      let inner := close fuel (runScript fuel { input := streams.input } script s.pipe)
      let s := (s.print streams.err (inner.output .err)).withStatus (codeOf inner.exit)
      let s := { s with sent := s.sent ++ inner.sent }
      ((if quoted then [.quote] else []) ++ atoms quoted (withoutBreaks (inner.output .out)), s)

/-- Expands a text, which is cut into fields unless it is quoted. -/
def expandText : Nat → Streams → List Char → Bool → State → List Atom × State
  | 0, _, _, _, s => ([], s)
  | fuel + 1, streams, chars, quoted, s =>
    let pieces := match quoted, tokens chars with
      | false, .ok tokens => ([Piece.text [' '] false]).intercalate (tokens.filterMap fun
          | .word _ w => some w
          | _ => none)
      | _, _ => ((readQuoted true (chars.length + 2) chars).toOption.map (·.1)).getD []
    expandWord fuel streams pieces s

def expandWord : Nat → Streams → Word → State → List Atom × State
  | 0, _, _, s | _, _, [], s => ([], s)
  | fuel + 1, streams, piece :: rest, s =>
    let (first, s) := expandPiece fuel streams piece s
    let (others, s) := expandWord fuel streams rest s
    (first ++ others, s)

/-- The fields that words expand to. -/
def expandAll : Nat → Streams → List Word → State → List String × State
  | 0, _, _, s | _, _, [], s => ([], s)
  | fuel + 1, streams, word :: rest, s =>
    let (expanded, s) := expandWord fuel streams word s
    let (others, s) := expandAll fuel streams rest s
    ((cut [] false expanded).map text ++ others, s)

def assignAll : Nat → Streams → List (String × Word) → State → State
  | 0, _, _, s | _, _, [], s => s
  | fuel + 1, streams, (name, word) :: rest, s =>
    let (expanded, s) := expandWord fuel streams word s
    assignAll fuel streams rest (s.assign name (text (marks expanded)))

def runSimple : Nat → Streams → Simple → State → State
  | 0, _, _, s => s
  | fuel + 1, streams, simple, s =>
    let (words, s) := expandAll fuel streams simple.words s
    let s := assignAll fuel streams simple.assignments s
    if s.ended.isSome then s
    else match words with
    | [] => if simple.words.isEmpty && simple.assignments.isEmpty then s.withStatus 0 else s
    | name :: args => runNamed fuel streams simple.line name args s

/-- Runs the command that a word names. -/
def runNamed : Nat → Streams → Nat → String → List String → State → State
  | 0, _, _, _, _, s => s
  | fuel + 1, streams, line, name, args, s =>
    match s.functions.lookup name with
    | some body =>
      let inner := { s with args, calls := s.calls + 1, loops := 0 }
      let after := run fuel streams body inner
      let leaving := if after.leaving = some .function then none else after.leaving
      { after with args := s.args, calls := s.calls, loops := s.loops, leaving }
    | none => runOwn fuel streams line name args s

/-- Runs a command of the shell's own, or else a program. -/
def runOwn : Nat → Streams → Nat → String → List String → State → State
  | 0, _, _, _, _, s => s
  | fuel + 1, streams, line, name, args, s =>
    match name, args with
    | "exec", [] =>
      { s with outTo := s.wired streams.out, errTo := s.wired streams.err, status := 0 }
    | "exec", name :: args => runInstead fuel streams line name args s
    | "eval", args => runScript fuel streams (" ".intercalate args).toList (s.withStatus 0)
    | "command", "-v" :: name :: _ =>
      if (Builtin.table.lookup name).isSome || (s.functions.lookup name).isSome then
        (s.print streams.out (Program.line name)).withStatus 0
      else if (Executable.find s.machine name).toOption.isSome then
        (s.print streams.out (Program.line (if name.toList.contains '/' then name
          else "/usr/bin/" ++ name))).withStatus 0
      else s.withStatus 127
    | "command", name :: args => runOwn fuel streams line name args s
    | ".", path :: _ =>
      match s.machine.treeText? path with
      | some script => runScript fuel streams script.toList s
      | none =>
        s.abort streams line
          (if path.toList.contains '/' then s!".: cannot open {path}: No such file"
          else s!".: {path}: not found")
    | ".", [] => s.withStatus 0
    | name, args =>
      match Builtin.table.lookup name with
      | some action => action s streams line args
      | none =>
        match launch fuel s.machine name args streams.input with
        | .ok ending => absorb s streams ending
        | .error obstacle =>
          let (text, code) := refusal name (if name.isEmpty then .denied else obstacle)
          (s.complain streams line s!"{name}: {text}").withStatus code

/-- Runs a program in the shell's place. -/
def runInstead : Nat → Streams → Nat → String → List String → State → State
  | 0, _, _, _, _, s => s
  | fuel + 1, streams, line, name, args, s =>
    match launch fuel s.machine name args streams.input with
    | .ok ending =>
      let s := (s.print streams.out ending.stdout).print streams.err ending.stderr
      { s with ended := some ending.exit, status := codeOf ending.exit, traps := [] }
    | .error obstacle =>
      let (text, code) := refusal ("/" ++ name) (if name.isEmpty then .denied else obstacle)
      let s := s.complain streams line s!"exec: {name}: {text}"
      { s with ended := some (.code code), status := code }

/-- Runs a script in a shell that is running. -/
def runScript : Nat → Streams → List Char → State → State
  | 0, _, _, s => s
  | fuel + 1, streams, script, s =>
    match read script with
    | .ok commands => runList fuel streams commands s
    | .error mistake => s.abort streams 1 mistake.message

/-- Runs a program to its end. -/
def launch : Nat → Machine → String → List String → Bytes → Except Obstacle Ending
  | 0, _, _, _, _ => .error .denied
  | fuel + 1, m, name, args, input =>
    match Executable.find m name with
    | .error obstacle => .error obstacle
    | .ok (.program program) => .ok (program m args input)
    | .ok .env => .ok (runChanged fuel m args input)
    | .ok .shell => .ok (runShell fuel m name args input)
    | .ok (.script interpreter argument) =>
      let path := if interpreter.toList.contains '/' then interpreter else "./" ++ interpreter
      launch fuel m path (argument ++ name :: args) input

/-- Runs a program with changed variables. -/
def runChanged : Nat → Machine → List String → Bytes → Ending
  | 0, _, _, _ => Program.ended 125
  | fuel + 1, m, args, input =>
    match args with
    | "-i" :: args | "-" :: args => runChanged fuel { m with env := [] } args input
    | "-u" :: name :: args =>
      runChanged fuel { m with env := m.env.filter (·.1 ≠ name) } args input
    | "--" :: args => runChanged fuel m args input
    | [] =>
      let lines := m.env.reverse.map fun (name, value) => s!"{name}={value}\n"
      Program.printed (Text.encodeUtf8 (String.join lines))
    | name :: args =>
      match name.toList.span (· ≠ '=') with
      | (assigned, _ :: value) =>
        let others := m.env.filter (·.1 ≠ .ofList assigned)
        runChanged fuel { m with env := (.ofList assigned, .ofList value) :: others } args input
      | (_, []) =>
        match launch fuel m name args input with
        | .ok ending => ending
        | .error .denied => Program.refused 126 s!"env: '{name}': Permission denied"
        | .error _ => Program.refused 127 s!"env: '{name}': No such file or directory"

/-- Runs a shell with its arguments. -/
def runShell : Nat → Machine → String → List String → Bytes → Ending
  | 0, _, _, _, _ => Program.ended 2
  | fuel + 1, m, name, args, input =>
    let s : State := { machine := m, name, args := [] }
    match Invocation.ofArgs args s with
    | .error complaint => Program.refused 2 s!"{name}: 0: {complaint}"
    | .ok (.inline script s) =>
      (close fuel (runScript fuel { input } script.toList s)).ending
    | .ok (.file path s) =>
      match m.treeText? path with
      | some script => (close fuel (runScript fuel { input } script.toList s)).ending
      | none =>
        if m.isDir path then Program.ended 0
        else Program.refused 2 s!"{name}: 0: cannot open {path}: No such file"
    | .ok (.input s) =>
      let script := (Text.decodeUtf8Lenient input).toList
      (close fuel (runScript fuel {} script s)).ending

end

/-- How deep commands may be nested, and how long a list of them may be. -/
def depth : Nat := 1000000

end Shell

/-- Arguments of programs are shorter than this many bytes. -/
def Machine.argumentBound : Nat := 131072

/-- Starts a program of a machine with an empty input and waits for its end. -/
def Machine.launch (m : Machine) (name : String) (args : List String) :
    Except Obstacle Ending := do
  if (name :: args).any fun text => text.toList.contains '\x00' then .error .zeroCharacter
  let _ ← Executable.find m name
  if args.any fun arg => argumentBound ≤ arg.utf8ByteSize then .error .argument
  Shell.launch Shell.depth m name args []

end ClusterHealth.Rehearsal
