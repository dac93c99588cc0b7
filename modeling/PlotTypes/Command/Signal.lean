/-
  PlotTypes.Command.Signal — signals by number: their names, and what the end by one of
  them is called.
-/

namespace PlotTypes.Command

structure SignalInfo where
  /-- Without the three letters that all names begin with. -/
  name : String
  /-- The shell knows it by its name too. -/
  isNamed : Bool
  /-- What is said of a process that it ended. -/
  described : String
  deriving DecidableEq, Repr

def commonSignals : List SignalInfo :=
  [⟨"HUP", true, "Hangup"⟩, ⟨"INT", true, "Interrupt"⟩, ⟨"QUIT", true, "Quit"⟩, ⟨"ILL", true, "Illegal instruction"⟩,
    ⟨"TRAP", true, "Trace/breakpoint trap"⟩, ⟨"ABRT", true, "Aborted"⟩, ⟨"BUS", true, "Bus error"⟩,
    ⟨"FPE", true, "Floating point exception"⟩, ⟨"KILL", true, "Killed"⟩, ⟨"USR1", true, "User defined signal 1"⟩,
    ⟨"SEGV", true, "Segmentation fault"⟩, ⟨"USR2", true, "User defined signal 2"⟩, ⟨"PIPE", true, "Broken pipe"⟩,
    ⟨"ALRM", true, "Alarm clock"⟩, ⟨"TERM", true, "Terminated"⟩, ⟨"STKFLT", false, "Stack fault"⟩,
    ⟨"CHLD", true, "Child exited"⟩, ⟨"CONT", true, "Continued"⟩, ⟨"STOP", true, "Stopped (signal)"⟩,
    ⟨"TSTP", true, "Stopped"⟩, ⟨"TTIN", true, "Stopped (tty input)"⟩, ⟨"TTOU", true, "Stopped (tty output)"⟩,
    ⟨"URG", true, "Urgent I/O condition"⟩, ⟨"XCPU", true, "CPU time limit exceeded"⟩,
    ⟨"XFSZ", true, "File size limit exceeded"⟩, ⟨"VTALRM", true, "Virtual timer expired"⟩,
    ⟨"PROF", true, "Profiling timer expired"⟩, ⟨"WINCH", true, "Window changed"⟩, ⟨"IO", true, "I/O possible"⟩,
    ⟨"PWR", true, "Power failure"⟩, ⟨"SYS", true, "Bad system call"⟩]

/-- The first and the last signal that a program may define. -/
def firstFree : Nat := 34

def lastSignal : Nat := 64

/-- How the shell lists a signal. -/
def signalName (n : Nat) : String :=
  if n = 0 then "0"
  else
    match commonSignals[n - 1]? with
    | some s => if s.isNamed then s.name else toString n
    | none =>
      if n < firstFree then toString n
      else if n = firstFree then "RTMIN"
      else if n = lastSignal then "RTMAX"
      else if n < 50 then s!"RTMIN+{n - firstFree}"
      else s!"RTMAX-{lastSignal - n}"

def signalNames : List String := (List.range (lastSignal + 1)).map signalName

/-- What is said of a process that a signal ended. -/
def signalDescription (n : Nat) : String :=
  match if n = 0 then none else commonSignals[n - 1]? with
  | some s => s.described
  | none => if n < firstFree then s!"Unknown signal {n}" else s!"Real-time signal {n - firstFree}"

/-- Signals that do nothing to a process that does not ask for them. -/
def isIgnoredSignal (n : Nat) : Bool := [17, 18, 23, 28].contains n

/-- Signals that no process can catch. -/
def isFinalSignal (n : Nat) : Bool := n == 9 || n == 19

end PlotTypes.Command
