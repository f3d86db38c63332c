import ClusterHealth.Ending
import ClusterHealth.Rehearsal.Machine
import ClusterHealth.Rehearsal.Shell.Basic
import ClusterHealth.Rehearsal.Shell.Pattern
import ClusterHealth.Text.Blank

/-! What a running shell knows, what it has printed, and the values that words stand for. -/
namespace ClusterHealth.Rehearsal.Shell
open Text (Bytes)

/-- Where output goes. -/
inductive Sink where
  | out
  | err
  | nowhere
  deriving DecidableEq

/-- The streams of a command. -/
structure Streams where
  input : Bytes := []
  out : Sink := .out
  err : Sink := .err

/-- What a running command list is left for. -/
inductive Leaving where
  /-- The end of a function. -/
  | function
  /-- The end of the loop that is around `more` others, or its next round. -/
  | loop (more : Nat) (again : Bool)
  deriving DecidableEq

structure State where
  machine : Machine
  /-- The name that the shell was started under. -/
  name : String
  args : List String
  status : Nat := 0
  /-- Whether a command that fails ends the shell. -/
  strict : Bool := false
  /-- Whether a value that is not set ends the shell. -/
  strictValues : Bool := false
  /-- Scripts that are run when a signal arrives or, under zero, at the end; an empty one does
  nothing. -/
  traps : List (Nat × List Char) := []
  functions : List (String × Command) := []
  /-- How many functions and how many loops are running. -/
  calls : Nat := 0
  loops : Nat := 0
  leaving : Option Leaving := none
  /-- Whether another shell has begun this one to run a part of its script. -/
  forked : Bool := false
  /-- Signals sent to the first shell. -/
  sent : List Nat := []
  /-- Where the two streams of output lead for all commands to come. -/
  outTo : Sink := .out
  errTo : Sink := .err
  /-- How the shell has ended, if it has. -/
  ended : Option Exit := none
  /-- What was printed; the latest comes first. -/
  printed : List (Sink × Bytes) := []

/-- The number of the shell's process. -/
def processNumber : Nat := 100

/-- The code that stands for an ending. -/
def codeOf : Exit → Nat
  | .code n => n
  | .signal n => 128 + n

namespace State

/-- Where a stream leads that is named by a sink. -/
def wired (s : State) : Sink → Sink
  | .out => s.outTo
  | .err => s.errTo
  | .nowhere => .nowhere

def print (s : State) (sink : Sink) (bytes : Bytes) : State :=
  if bytes.isEmpty then s else { s with printed := (s.wired sink, bytes) :: s.printed }

def complain (s : State) (streams : Streams) (line : Nat) (text : String) : State :=
  s.print streams.err (Text.encodeUtf8 s!"{s.name}: {line}: {text}\n")

def withStatus (s : State) (status : Nat) : State := { s with status }

/-- Complains and ends. -/
def abort (s : State) (streams : Streams) (line : Nat) (text : String) : State :=
  { s.complain streams line text with ended := some (.code 2), status := 2 }

/-- No further command of a list is run. -/
def stops (s : State) : Bool := s.ended.isSome || s.leaving.isSome

/-- Behind a round of a loop: whether another one may follow. -/
def afterRound (s : State) : Bool × State :=
  match s.leaving with
  | some (.loop 0 again) => (again, { s with leaving := none })
  | some (.loop (more + 1) again) => (false, { s with leaving := some (.loop more again) })
  | some .function => (false, s)
  | none => (s.ended.isNone, s)

/-- Ends a strict shell if the last command has failed. -/
def settled (s : State) : State :=
  if s.strict && s.status ≠ 0 && s.ended.isNone then
    { s with ended := some (.code s.status) }
  else s

/-- What went to a sink. -/
def output (s : State) (sink : Sink) : Bytes :=
  (s.printed.reverse.filter (·.1 = sink)).flatMap (·.2)

def exit (s : State) : Exit := s.ended.getD (.code s.status)

def ending (s : State) : Ending := ⟨s.exit, s.output .out, s.output .err⟩

def assign (s : State) (name value : String) : State :=
  let env := (name, value) :: s.machine.env.filter (·.1 ≠ name)
  { s with machine := { s.machine with env } }

/-- A shell with the same arguments and variables that has not printed anything. It ignores the
same signals. -/
def fork (s : State) : State :=
  { s with
    printed := [], sent := [], forked := true, loops := 0
    traps := s.traps.filter (·.2.isEmpty) }

/-- A shell with streams of its own. -/
def pipe (s : State) : State := { s.fork with outTo := .out, errTo := .err }

def single (s : State) : Parameter → String
  | .name name => (s.machine.env.lookup name).getD ""
  | .place 0 => s.name
  | .place (n + 1) => s.args.getD n ""
  | .each | .all => " ".intercalate s.args
  | .count => toString s.args.length
  | .status => toString s.status
  | .process => toString processNumber

/-- Whether a parameter has a value. -/
def isSet (s : State) : Parameter → Bool
  | .name name => (s.machine.env.lookup name).isSome
  | .place n => n ≤ s.args.length
  | _ => true

end State

/-- A parameter as a complaint names it. -/
def Parameter.text : Parameter → String
  | .name text => text
  | .place n => toString n
  | .each => "@"
  | .all => "*"
  | .count => "#"
  | .status => "?"
  | .process => "$"

/-- A part of an expanded word. -/
inductive Atom where
  | mark (m : Mark)
  /-- Between two fields. -/
  | gap
  /-- Something was quoted here, so that there is a field even if it is empty. -/
  | quote

def atoms (quoted : Bool) (chars : List Char) : List Atom :=
  chars.map fun c => if !quoted && Text.isBlank c then .gap else .mark ⟨c, quoted⟩

/-- The value of a parameter, cut into fields unless it is quoted. -/
def State.value (s : State) (p : Parameter) (quoted : Bool) : List Atom :=
  match p, quoted with
  | .each, true =>
    [Atom.gap].intercalate (s.args.map fun arg => .quote :: atoms true arg.toList)
  | p, true => .quote :: atoms true (s.single p).toList
  | p, false => atoms false (s.single p).toList

/-- Cuts at gaps; `kept` says that the field so far is there even if it is empty. -/
def cut (field : List Mark) (kept : Bool) : List Atom → List (List Mark)
  | [] => if kept || !field.isEmpty then [field.reverse] else []
  | .gap :: rest =>
    if kept || !field.isEmpty then field.reverse :: cut [] false rest else cut [] false rest
  | .quote :: rest => cut field true rest
  | .mark m :: rest => cut (m :: field) kept rest

def text (marks : List Mark) : String := .ofList (marks.map (·.char))

/-- An expanded word in one piece. -/
def marks (expanded : List Atom) : List Mark :=
  expanded.filterMap fun
    | .mark m => some m
    | .gap => some ⟨' ', false⟩
    | .quote => none

end ClusterHealth.Rehearsal.Shell
