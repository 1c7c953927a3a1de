import ModuleMapper.Host.Shell.Builtin.Jobs
import ModuleMapper.Host.Shell.Expansion

/-!
# Signals — what is done on them, and how they are sent

  A shell may do something on a signal, or nothing; otherwise most signals end it.
-/

namespace ModuleMapper.Shell.Builtin

open scoped Bytes
open Run

/-! ## Traps -/

/-- The number of a signal, by its number or its name. -/
def signal? (name : Bytes) : Option Nat :=
  match Integer.ofPlainDigits? name with
  | some n => if n < 65 then some n else none
  | none =>
    let upper := name.map Byte.toUpper
    Signal.all.findIdx? fun signal => Bytes.ofString signal == upper

/-- Say what is done on signals. -/
def trap (arguments : List Bytes) : Run Nat := do
  let (_, operands) ← options "" arguments
  match operands with
  | [] =>
    let sorted := (← get).traps.mergeSort fun a b => decide (a.1 ≤ b.1)
    let rows := sorted.map fun (number, action) =>
      "trap -- " ++ quoted action ++ [Byte.space]
        ++ Bytes.ofString ((Signal.all[number]?).getD (toString number)) ++ [Byte.newline]
    put rows.flatten
  | first :: others =>
    let (action, names) : Option Bytes × List Bytes :=
      if others = [] || (Integer.ofPlainDigits? first).isSome then (none, operands)
      else (if first = ("-" : Bytes) then none else some first, others)
    let mut status := 0
    for name in names do
      match signal? name with
      | none =>
        say ("trap: " ++ name ++ ": bad trap")
        status := 1
      | some number =>
        if status = 0 then
          modify fun m =>
            let kept := m.traps.filter fun trap => trap.1 != number
            { m with traps := match action with
                | some action => kept ++ [(number, action)]
                | none => kept }
    return status

/-! ## Sending -/

/-- Send a signal to processes. Of those only the shell itself and the commands in the background are
    there, and the latter have ended; no group has the number of a job. -/
def send (signal : Nat) (processes : List Bytes) : Run Nat := do
  let mut status := 0
  for process in processes do
    let target ←
      if process.head? = some Byte.percent then do
        let _ ← Jobs.find process
        pure none
      else if process.head? = some Byte.dash then do
        let _ ← number process.tail
        pure none
      else some <$> number process
    let known := (← get).jobs.any fun job => some job.process == target
    if target = some Expansion.processNumber then raise signal
    else if !known then
      warn "No such process\n"
      status := 1
  return status

/-- The number of a signal that `kill` can send. -/
def sentSignal? (name : Bytes) : Option Nat :=
  match signal? name with
  | some 0 => if Byte.isDigit (name.headD 0) then some 0 else none
  | found => found

/-- How `kill` is used. -/
def killUsage : Bytes :=
  "Usage: kill [-s sigspec | -signum | -sigspec] [pid | job]... or\nkill -l [exitstatus]"

/-- Show the names of signals. -/
def listSignals (operands : List Bytes) : Run Nat := do
  match operands with
  | [] =>
    let names := "0" :: Signal.all.drop 1 ++ (List.range 33).map fun n =>
      if n < 2 then toString (32 + n)
      else if n = 2 then "RTMIN"
      else if n = 32 then "RTMAX"
      else if n ≤ 17 then "RTMIN+" ++ toString (n - 2)
      else "RTMAX-" ++ toString (32 - n)
    put (Bytes.ofString (String.join (names.map (· ++ "\n"))))
  | operand :: _ =>
    let n ← number operand
    let signal := if n > 128 then n - 128 else n
    match Signal.all[signal]? with
    | some name =>
      if signal = 0 then fail ("invalid signal number or exit status: " ++ operand)
      else put (Bytes.ofString (name ++ "\n"))
    | none => fail ("invalid signal number or exit status: " ++ operand)

/-- Send a signal, or show the names of signals. -/
def kill (arguments : List Bytes) : Run Nat := do
  match arguments with
  | [] => fail killUsage
  | first :: others =>
    if first.head? ≠ some Byte.dash then send 15 arguments
    else
      match sentSignal? first.tail with
      | some signal => if others = [] then fail killUsage else send signal others
      | none =>
        match first.tail with
        | [] => send 15 arguments
        | letter :: rest =>
          if letter = 'l'.toUInt8 then listSignals others
          else if letter = 's'.toUInt8 then
            let words := if rest = [] then others else rest :: others
            match words with
            | [] => fail "No arg for -s option"
            | name :: processes =>
              match sentSignal? name with
              | some signal => if processes = [] then fail killUsage else send signal processes
              | none => fail ("invalid signal number or name: " ++ name)
          else if letter = Byte.dash ∧ rest = [] then
            if others = [] then fail killUsage else send 15 others
          else fail ("Illegal option -" ++ [letter])

end ModuleMapper.Shell.Builtin
