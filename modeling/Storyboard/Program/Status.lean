/-!
How programs end: with an exit code, or by a signal. Signals are known by their numbers; the first
of them have names.
-/

namespace Storyboard

namespace Signal

/-- The names of the signals, from the first one on. -/
def names : List String :=
  ["HUP", "INT", "QUIT", "ILL", "TRAP", "ABRT", "BUS", "FPE", "KILL", "USR1", "SEGV", "USR2",
   "PIPE", "ALRM", "TERM", "STKFLT", "CHLD", "CONT", "STOP", "TSTP", "TTIN", "TTOU", "URG", "XCPU",
   "XFSZ", "VTALRM", "PROF", "WINCH", "IO", "PWR", "SYS"]

def interrupt : Nat := 2

def quit : Nat := 3

def kill : Nat := 9

def brokenPipe : Nat := 13

def terminate : Nat := 15

/-- The first of the signals that have no meaning of their own. -/
def firstFree : Nat := 34

/-- The greatest number of a signal. -/
def greatest : Nat := 64

def name? (n : Nat) : Option String :=
  if n = 0 then none else names[n - 1]?

/-- What each of the named signals says of a program that it ended. -/
def reasons : List String :=
  ["Hangup", "Interrupt", "Quit", "Illegal instruction", "Trace/breakpoint trap", "Aborted",
   "Bus error", "Floating point exception", "Killed", "User defined signal 1",
   "Segmentation fault", "User defined signal 2", "Broken pipe", "Alarm clock", "Terminated",
   "Stack fault", "Child exited", "Continued", "Stopped (signal)", "Stopped",
   "Stopped (tty input)", "Stopped (tty output)", "Urgent I/O condition",
   "CPU time limit exceeded", "File size limit exceeded", "Virtual timer expired",
   "Profiling timer expired", "Window changed", "I/O possible", "Power failure",
   "Bad system call"]

def reason (n : Nat) : String :=
  if firstFree ≤ n then "Real-time signal " ++ toString (n - firstFree)
  else reasons.getD (n - 1) ("Unknown signal " ++ toString n)

/-- The signals that do no harm to a program that has made no arrangement for them; those that
would only stop it are among them, since nothing waits here. -/
def harmless : List String :=
  ["CHLD", "CONT", "STOP", "TSTP", "TTIN", "TTOU", "URG", "WINCH"]

def isHarmless (n : Nat) : Bool :=
  (name? n).any harmless.contains

end Signal

/-- How a program ended. -/
inductive ExitStatus where
  | exited (code : Nat)
  | signalled (number : Nat)
deriving DecidableEq

namespace ExitStatus

def success : ExitStatus := .exited 0

def message : ExitStatus → String
  | .exited code => "exit status: " ++ toString code
  | .signalled number =>
    "signal: " ++ toString number
      ++ (match Signal.name? number with
        | some name => " (SIG" ++ name ++ ")"
        | none => "")

end ExitStatus

end Storyboard
