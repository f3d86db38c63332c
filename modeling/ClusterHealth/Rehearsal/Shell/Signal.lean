import ClusterHealth.Decimal.Reading
import ClusterHealth.Ending
import ClusterHealth.Text.Affix

/-! Signals as a shell knows them. -/
namespace ClusterHealth.Rehearsal.Shell.Signal

/-- The largest number of a signal. -/
def last : Nat := 64

/-- The number of the first signal that has no meaning of its own. -/
def firstRealTime : Nat := 34

/-- The name of a signal. -/
def name (n : Nat) : String :=
  if n = 0 then "EXIT"
  else if n = 16 || n = 32 || n = 33 then toString n
  else if n < 32 then
    let full := (Exit.signalName? n).getD ""
    (Text.after? full "SIG").getD full
  else if n = firstRealTime then "RTMIN"
  else if n < 50 then s!"RTMIN+{n - firstRealTime}"
  else if n < last then s!"RTMAX-{last - n}"
  else "RTMAX"

/-- The signal from `first` on that a text names, by its number or its name in small or capital
letters. -/
def named? (first : Nat) (text : String) : Option Nat :=
  let chars := text.toList
  if !chars.isEmpty && chars.all Decimal.isDigit then
    let n := Decimal.natOfDigits chars
    if n ≤ last then some n else none
  else
    ((List.range (last + 1)).drop first).find? fun n =>
      Text.lowerAscii (name n) = Text.lowerAscii text

/-- Signals that end no process. -/
def harmless : List Nat := [0, 17, 18, 19, 20, 21, 22, 23, 28]

/-- Signals that nothing can be done about. -/
def untrappable : List Nat := [9, 19]

/-- Endings by these signals are not told. -/
def quiet : List Nat := [2, 13]

/-- What a shell tells about a program that a signal has ended. -/
def notice (n : Nat) : String :=
  let texts := [
    "Hangup", "Interrupt", "Quit", "Illegal instruction", "Trace/breakpoint trap", "Aborted",
    "Bus error", "Floating point exception", "Killed", "User defined signal 1",
    "Segmentation fault", "User defined signal 2", "Broken pipe", "Alarm clock", "Terminated",
    "Stack fault", "Child exited", "Continued", "Stopped (signal)", "Stopped",
    "Stopped (tty input)", "Stopped (tty output)", "Urgent I/O condition",
    "CPU time limit exceeded", "File size limit exceeded", "Virtual timer expired",
    "Profiling timer expired", "Window changed", "I/O possible", "Power failure",
    "Bad system call"]
  match texts[n - 1]? with
  | some text => text
  | none =>
    if n < firstRealTime then s!"Unknown signal {n}" else s!"Real-time signal {n - firstRealTime}"

end ClusterHealth.Rehearsal.Shell.Signal
