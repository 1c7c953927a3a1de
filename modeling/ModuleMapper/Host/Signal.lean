import ModuleMapper.Ending

/-!
# Signals — what they mean to a shell

  Where only a number is wanted, an ending by a signal counts as a status above 128.
-/

namespace ModuleMapper

namespace Signal

/-- The names of the signals by their numbers; the first stands for the end of a shell. -/
def all : List String := "EXIT" :: names

/-- What the signals say, by their numbers. -/
def descriptions : List String :=
  ["Unknown signal 0", "Hangup", "Interrupt", "Quit", "Illegal instruction", "Trace/breakpoint trap",
   "Aborted", "Bus error", "Floating point exception", "Killed", "User defined signal 1",
   "Segmentation fault", "User defined signal 2", "Broken pipe", "Alarm clock", "Terminated",
   "Stack fault", "Child exited", "Continued", "Stopped (signal)", "Stopped", "Stopped (tty input)",
   "Stopped (tty output)", "Urgent I/O condition", "CPU time limit exceeded",
   "File size limit exceeded", "Virtual timer expired", "Profiling timer expired", "Window changed",
   "I/O possible", "Power failure", "Bad system call"]

/-- The number of the first signal that has no meaning of its own. -/
def firstFree : Nat := 34

/-- What a signal says. -/
def describe (signal : Nat) : String :=
  match descriptions[signal]? with
  | some text => text
  | none =>
    if signal < firstFree then "Unknown signal " ++ toString signal
    else "Real-time signal " ++ toString (signal - firstFree)

/-- The signals that do nothing unless something is to be done on them. -/
def harmless : List Nat := [0, 17, 18, 19, 20, 21, 22, 23, 28]

/-- The signal that a process cannot prepare for. -/
def kill : Nat := 9

/-- The signal for a process that uses memory which it does not have. -/
def segmentation : Nat := 11

/-- The signals that end a process of which nobody is told. -/
def silent : List Nat := [2, 13]

end Signal

namespace Ending

/-- The number that an ending counts as. -/
def status : Ending → Nat
  | exited status => status
  | killed signal => 128 + signal

/-- What a shell says of a process that it has waited for. -/
def notice? : Ending → Option String
  | exited _ => none
  | killed signal => if Signal.silent.contains signal then none else some (Signal.describe signal)

end Ending

end ModuleMapper
