import ModuleMapper.Host.Shell.Builtin.Arguments
import ModuleMapper.Host.Shell.Condition
import ModuleMapper.Host.Shell.Format

/-!
# Printing and testing — builtins that answer by a text or a status

  These builtins leave the shell as it is. Text is made by a format, and a test holds or does not.
-/

namespace ModuleMapper.Shell.Builtin

open scoped Bytes
open Run

/-- Print a text by a format. -/
def printf (arguments : List Bytes) : Run Nat := do
  let (_, operands) ← options "" arguments
  match operands with
  | [] => fail "usage: printf format [arg ...]"
  | format :: others =>
    match Format.printf format others with
    | .ok p => do
      p.warnings.forM warn
      put p.shown (if p.warnings = [] then 0 else 1)
    | .error (text, p) => do
      p.warnings.forM warn
      warn text
      let _ ← put p.shown
      return 2

/-- Find out whether a condition holds. -/
def test (name : Bytes) (arguments : List Bytes) : Run Nat := do
  let bracketed := name = ("[" : Bytes)
  if bracketed && arguments.getLast? ≠ some ("]" : Bytes) then fail "missing ]"
  else
    let words := if bracketed then arguments.dropLast else arguments
    let world : Condition.World := { files := ← files, isTerminal := fun _ => false }
    match Condition.evaluate world 4 words with
    | .ok true => return 0
    | .ok false => return 1
    | .error text => fail text

end ModuleMapper.Shell.Builtin
