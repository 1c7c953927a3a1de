import ModuleMapper.Bytes

/-!
# Endings — how processes end

  A process ends by itself, with an exit status, or by a signal.
-/

namespace ModuleMapper

/-- The names of the signals, from the one with number 1 on. -/
def Signal.names : List String :=
  ["HUP", "INT", "QUIT", "ILL", "TRAP", "ABRT", "BUS", "FPE", "KILL", "USR1", "SEGV", "USR2", "PIPE",
   "ALRM", "TERM", "STKFLT", "CHLD", "CONT", "STOP", "TSTP", "TTIN", "TTOU", "URG", "XCPU", "XFSZ",
   "VTALRM", "PROF", "WINCH", "IO", "PWR", "SYS"]

/-- The name of a signal, if it has one. -/
def Signal.name? : Nat → Option String
  | 0 => none
  | number + 1 => names[number]?

/-- How a process has ended. -/
inductive Ending where
  | exited (status : Nat)
  | killed (signal : Nat)
  deriving Repr, DecidableEq

/-- The ending in words. -/
def Ending.message : Ending → String
  | exited status => "exit status: " ++ toString status
  | killed signal =>
    "signal: " ++ toString signal ++ (Signal.name? signal).elim "" fun name => " (SIG" ++ name ++ ")"

end ModuleMapper
