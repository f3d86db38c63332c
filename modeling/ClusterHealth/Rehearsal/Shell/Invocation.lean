import ClusterHealth.Rehearsal.Shell.Builtin

/-! The arguments of a shell: options, the script, and the arguments of the script. -/
namespace ClusterHealth.Rehearsal.Shell

/-- Where a shell finds its script, and what it knows when it begins. -/
inductive Invocation where
  | inline (script : String) (s : State)
  | file (path : String) (s : State)
  | input (s : State)

/-- What options have said. -/
structure Options where
  state : State
  /-- The script is an argument. -/
  inline : Bool := false
  /-- The script is the input. -/
  fromInput : Bool := false

/-- Reads the letters of an option behind its sign. -/
def Options.read (o : Options) (on : Bool) : List Char → Except String Options
  | [] => .ok o
  | 'c' :: rest => { o with inline := true }.read on rest
  | 's' :: rest => { o with fromInput := true }.read on rest
  | c :: rest =>
    match Builtin.setOptions o.state on [c] with
    | .ok state => { o with state }.read on rest
    | .error c => .error s!"Illegal option -{Char.toString c}"

/-- Reads options as long as there are any. -/
def Options.readAll (o : Options) : List String → Except String (Options × List String)
  | [] => .ok (o, [])
  | arg :: rest =>
    match arg.toList with
    | ['-'] | ['-', '-'] => .ok (o, rest)
    | '-' :: letters => do (← o.read true letters).readAll rest
    | '+' :: letters => do (← o.read false letters).readAll rest
    | _ => .ok (o, arg :: rest)

/-- Reads the arguments of a shell that has not yet begun. -/
def Invocation.ofArgs (args : List String) (s : State) : Except String Invocation := do
  let (o, rest) ← { state := s : Options }.readAll args
  let s := o.state
  match o.inline, rest with
  | true, [] => .error "-c requires an argument"
  | true, [script] => return .inline script s
  | true, script :: name :: args => return .inline script { s with name, args }
  | false, [] => return .input s
  | false, path :: args =>
    if o.fromInput then return .input { s with args := path :: args }
    else return .file path { s with name := path, args }

end ClusterHealth.Rehearsal.Shell
