namespace Orchestrator.Child

/-!
# Children — signals

* `isDeadly` — which signals end a process that does not care for them.
* `signalName`, `signalOfName?` — the names of signals.
* `signalMeaning` — what is said of a process that a signal ended.
-/

/-- The signals whose usual effect is none. -/
def harmlessSignals : List Nat := [0, 17, 18, 23, 28, 32, 33]

/-- There are signals up to this number. -/
def lastSignal : Nat := 64

/-- The signal ends a process that does not care for it. -/
def isDeadly (signal : Nat) : Bool := signal ≤ lastSignal && !harmlessSignals.contains signal

/-- The signal that asks a process to end. -/
def terminationSignal : Nat := 15

/-- The signal that no process can care for. -/
def killSignal : Nat := 9

/-- The signals of a user who wants a process to end, and of a pipe that nobody reads. -/
def quietSignals : List Nat := [2, 13]

/-- Names and meanings of the signals from the first one on. Those without a name are named by
their number. -/
def signalTable : List (String × String) :=
  [("HUP", "Hangup"), ("INT", "Interrupt"), ("QUIT", "Quit"), ("ILL", "Illegal instruction"),
    ("TRAP", "Trace/breakpoint trap"), ("ABRT", "Aborted"), ("BUS", "Bus error"),
    ("FPE", "Floating point exception"), ("KILL", "Killed"), ("USR1", "User defined signal 1"),
    ("SEGV", "Segmentation fault"), ("USR2", "User defined signal 2"), ("PIPE", "Broken pipe"),
    ("ALRM", "Alarm clock"), ("TERM", "Terminated"), ("16", "Stack fault"),
    ("CHLD", "Child exited"), ("CONT", "Continued"), ("STOP", "Stopped (signal)"),
    ("TSTP", "Stopped"), ("TTIN", "Stopped (tty input)"), ("TTOU", "Stopped (tty output)"),
    ("URG", "Urgent I/O condition"), ("XCPU", "CPU time limit exceeded"),
    ("XFSZ", "File size limit exceeded"), ("VTALRM", "Virtual timer expired"),
    ("PROF", "Profiling timer expired"), ("WINCH", "Window changed"), ("IO", "I/O possible"),
    ("PWR", "Power failure"), ("SYS", "Bad system call"), ("32", "Unknown signal 32"),
    ("33", "Unknown signal 33")]

/-- The first of the signals that are told apart by their distance from it. -/
def firstNumbered : Nat := 34

/-- The middle of these signals: up to there they are named from the first one on, and behind it
from the last one back. -/
def middleNumbered : Nat := 49

/-- The name of a signal; the number zero stands for the end of a process. -/
def signalName (signal : Nat) : String :=
  if signal = 0 then "EXIT"
  else if signal < firstNumbered then ((signalTable[signal - 1]?).map (·.1)).getD ""
  else if signal = firstNumbered then "RTMIN"
  else if signal ≤ middleNumbered then "RTMIN+" ++ toString (signal - firstNumbered)
  else if signal = lastSignal then "RTMAX"
  else "RTMAX-" ++ toString (lastSignal - signal)

/-- The signal with a name. -/
def signalOfName? (name : String) : Option Nat :=
  (List.range (lastSignal + 1)).find? fun signal => signalName signal == name

/-- What is said of a process that a signal ended. -/
def signalMeaning (signal : Nat) : String :=
  if signal < firstNumbered then ((signalTable[signal - 1]?).map (·.2)).getD ""
  else "Real-time signal " ++ toString (signal - firstNumbered)

example : signalName 50 = "RTMAX-14" := by decide +kernel
example : signalOfName? "TERM" = some terminationSignal := by decide +kernel

end Orchestrator.Child
