import ModuleMapper.Host.Shell.Builtin.Arguments
import ModuleMapper.Host.Shell.Redirection
import ModuleMapper.Host.Image

/-!
# Control — builtins that carry out commands or stop them

  A script may be given by arguments or by a file. Loops, functions and shells can be left from inside.
-/

namespace ModuleMapper.Shell.Builtin

open scoped Bytes
open Run

variable (evaluator : Evaluator)

/-- Carry out the arguments as a script. -/
def eval (tested : Bool) (arguments : List Bytes) : Run Nat := do
  match arguments with
  | [] => return 0
  | _ => do
    evaluator.text tested ([Byte.space].intercalate arguments)
    return (← get).status

/-- Carry out a file in this shell. -/
def readScript (arguments : List Bytes) : Run Nat := do
  let (_, operands) ← options "" arguments
  match operands with
  | [] => return 0
  | name :: _ => do
    let searched := (← valueOf "PATH").getD []
    let here ← files
    let path ←
      if name.contains Byte.slash then pure name
      else
        let places := (Image.directoriesOf searched).map fun directory =>
          Image.within directory name
        match places.find? fun path => here.holds path && !here.isDirectory path with
        | some path => pure path
        | none => fail (name ++ (": not found" : Bytes))
    let p := (← get).process
    match p.openFile path .read with
    | .error cause => fail (openError .read path cause)
    | .ok _ => do
      modify fun m => { m with speaker := some path }
      let content := (← act (Process.readFile path)).toOption.getD []
      match ← settle (evaluator.text false content true) with
      | none | some .back => return (← get).status
      | some stop => throw stop

/-- Leave loops, or go on with their next rounds. -/
def leaveLoops (stop : Nat → Stop) (arguments : List Bytes) : Run Nat := do
  let count ← match arguments.head? with
    | some argument => do
      let count ← number argument
      if count = 0 then fail ("Illegal number: " ++ argument) else pure count
    | none => pure 1
  let most := (← get).loops
  if most = 0 then return 0
  else
    setStatus 0
    throw (stop (min count most))

/-- The status that an argument asks for. -/
def askedStatus (arguments : List Bytes) : Run Nat := do
  match arguments.head? with
  | some argument => number argument
  | none => return (← get).status

end ModuleMapper.Shell.Builtin
