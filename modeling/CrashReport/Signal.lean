/-!
# Signals

The signals that end a process, by number, with the symbolic name and the text in
which a report names the reason of the crash. A number without a signal still has a
description, so every number can be reported.
-/

namespace CrashReport

/-- A signal of the system, with the number that the kernel reports and what it says about the
process. -/
structure Signal where
  number : UInt32
  name : String
  description : String
  deriving DecidableEq, Repr

namespace Signal

/-- The signals in the order of their numbers. -/
def all : List Signal :=
  [⟨1, "SIGHUP", "Hangup"⟩,
   ⟨2, "SIGINT", "Interrupt"⟩,
   ⟨3, "SIGQUIT", "Quit"⟩,
   ⟨4, "SIGILL", "Illegal instruction"⟩,
   ⟨5, "SIGTRAP", "Trace/breakpoint trap"⟩,
   ⟨6, "SIGABRT", "Aborted"⟩,
   ⟨7, "SIGBUS", "Bus error"⟩,
   ⟨8, "SIGFPE", "Floating point exception"⟩,
   ⟨9, "SIGKILL", "Killed"⟩,
   ⟨10, "SIGUSR1", "User defined signal 1"⟩,
   ⟨11, "SIGSEGV", "Segmentation fault"⟩,
   ⟨12, "SIGUSR2", "User defined signal 2"⟩,
   ⟨13, "SIGPIPE", "Broken pipe"⟩,
   ⟨14, "SIGALRM", "Alarm clock"⟩,
   ⟨15, "SIGTERM", "Terminated"⟩,
   ⟨16, "SIGSTKFLT", "Stack fault"⟩,
   ⟨17, "SIGCHLD", "Child exited"⟩,
   ⟨18, "SIGCONT", "Continued"⟩,
   ⟨19, "SIGSTOP", "Stopped (signal)"⟩,
   ⟨20, "SIGTSTP", "Stopped"⟩,
   ⟨21, "SIGTTIN", "Stopped (tty input)"⟩,
   ⟨22, "SIGTTOU", "Stopped (tty output)"⟩,
   ⟨23, "SIGURG", "Urgent I/O condition"⟩,
   ⟨24, "SIGXCPU", "CPU time limit exceeded"⟩,
   ⟨25, "SIGXFSZ", "File size limit exceeded"⟩,
   ⟨26, "SIGVTALRM", "Virtual timer expired"⟩,
   ⟨27, "SIGPROF", "Profiling timer expired"⟩,
   ⟨28, "SIGWINCH", "Window changed"⟩,
   ⟨29, "SIGIO", "I/O possible"⟩,
   ⟨30, "SIGPWR", "Power failure"⟩,
   ⟨31, "SIGSYS", "Bad system call"⟩]

/-- The signal of a number. -/
def ofNumber? (number : UInt32) : Option Signal :=
  all.find? fun signal => signal.number = number

/-- The symbolic name of a number that is a signal. -/
def name? (number : UInt32) : Option String :=
  (ofNumber? number).map name

/-- What a number says about the process, also when it is no known signal. -/
def describe (number : UInt32) : String :=
  match ofNumber? number with
  | some signal => signal.description
  | none => "Unknown signal " ++ toString number.toNat

end Signal

end CrashReport
