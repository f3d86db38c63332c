import ClusterHealth.Text.Utf8

/-! How programs end. -/
namespace ClusterHealth

inductive Exit where
  | code (n : Nat)
  | signal (n : Nat)
  deriving DecidableEq

namespace Exit

/-- Names of the signals from one on. -/
def signalNames : List String := [
  "SIGHUP", "SIGINT", "SIGQUIT", "SIGILL", "SIGTRAP", "SIGABRT", "SIGBUS", "SIGFPE", "SIGKILL",
  "SIGUSR1", "SIGSEGV", "SIGUSR2", "SIGPIPE", "SIGALRM", "SIGTERM", "SIGSTKFLT", "SIGCHLD",
  "SIGCONT", "SIGSTOP", "SIGTSTP", "SIGTTIN", "SIGTTOU", "SIGURG", "SIGXCPU", "SIGXFSZ",
  "SIGVTALRM", "SIGPROF", "SIGWINCH", "SIGIO", "SIGPWR", "SIGSYS"]

def signalName? : Nat → Option String
  | 0 => none
  | n + 1 => signalNames[n]?

def text : Exit → String
  | code n => s!"exit status: {n}"
  | signal n =>
    match signalName? n with
    | some name => s!"signal: {n} ({name})"
    | none => s!"signal: {n}"

end Exit

/-- What is left of a program that has ended. -/
structure Ending where
  exit : Exit
  stdout : Text.Bytes
  stderr : Text.Bytes

def Ending.succeeded (e : Ending) : Bool := e.exit = .code 0

end ClusterHealth
