import ModuleMapper.Host.Shell.Builtin.Control
import ModuleMapper.Host.Shell.Builtin.Directory
import ModuleMapper.Host.Shell.Builtin.Names
import ModuleMapper.Host.Shell.Builtin.Options
import ModuleMapper.Host.Shell.Builtin.Printing
import ModuleMapper.Host.Shell.Builtin.Reading
import ModuleMapper.Host.Shell.Builtin.Signals
import ModuleMapper.Host.Shell.Builtin.System
import ModuleMapper.Host.Shell.Builtin.Variables

/-!
# The table of builtins — what their names stand for

  Some builtins are special: an error in one of them ends the shell, and assignments in front of it
  outlive it.
-/

namespace ModuleMapper.Shell

open scoped Bytes
open Run

variable (evaluator : Evaluator)

/-- A builtin. -/
structure BuiltinCommand where
  special : Bool := false
  /-- Are arguments that look like assignments expanded like assignments? -/
  assigns : Bool := false
  run : (tested : Bool) → List Bytes → Run Nat

/-- The builtin that a name stands for. -/
def builtin? (name : Bytes) : Option BuiltinCommand :=
  let simple (run : List Bytes → Run Nat) : Option BuiltinCommand := some { run := fun _ => run }
  let special (run : List Bytes → Run Nat) : Option BuiltinCommand :=
    some { special := true, run := fun _ => run }
  let declaring (run : List Bytes → Run Nat) : Option BuiltinCommand :=
    some { special := true, assigns := true, run := fun _ => run }
  match name.toString? with
  | some ":" => special fun _ => return 0
  | some "." => special (Builtin.readScript evaluator)
  | some "break" => special (Builtin.leaveLoops .leave)
  | some "continue" => special (Builtin.leaveLoops .next)
  | some "eval" => some { special := true, run := Builtin.eval evaluator }
  | some "exit" => special fun arguments => do
    setStatus (← Builtin.askedStatus arguments)
    throw .exit
  | some "return" => special fun arguments => do
    setStatus (← Builtin.askedStatus arguments)
    throw .back
  | some "export" =>
    declaring (Builtin.declare "export" (fun v => { v with exported := true }) Variable.exported)
  | some "readonly" =>
    declaring (Builtin.declare "readonly" (fun v => { v with readOnly := true }) Variable.readOnly)
  | some "local" => declaring Builtin.makeLocal
  | some "set" => special Builtin.set
  | some "shift" => special Builtin.shift
  | some "times" => special fun _ => Builtin.times
  | some "trap" => special Builtin.trap
  | some "unset" => special Builtin.unset
  | some "[" | some "test" => simple (Builtin.test name)
  | some "alias" => some { assigns := true, run := fun _ => Builtin.defineAliases }
  | some "unalias" => simple Builtin.unalias
  | some "cd" | some "chdir" => simple Builtin.cd
  | some "pwd" => simple Builtin.pwd
  | some "echo" => simple fun arguments => Builtin.put (Format.echo arguments)
  | some "printf" => simple Builtin.printf
  | some "true" => simple fun _ => return 0
  | some "false" => simple fun _ => return 1
  | some "read" => simple Builtin.read
  | some "getopts" => simple Builtin.getopts
  | some "type" => simple Builtin.describeAll
  | some "hash" => simple Builtin.hash
  | some "kill" => simple Builtin.kill
  | some "wait" => simple Builtin.Jobs.wait
  | some "umask" => simple Builtin.umask
  | some "ulimit" => simple Builtin.ulimit
  | some "jobs" => simple Builtin.Jobs.list
  | some "fg" | some "bg" => simple Builtin.Jobs.goOn
  | _ => none

end ModuleMapper.Shell
