import ModuleMapper.Host.Shell.Builtin.Arguments

/-!
# Variables and arguments — builtins that mark, forget and shift them

  A variable can be handed to programs, protected, or belong to a function: then it is as before when
  the function ends.
-/

namespace ModuleMapper.Shell.Builtin

open scoped Bytes
open Run

/-- Mark variables, and give values to some. -/
def declare (name : Bytes) (mark : Variable → Variable) (marked : Variable → Bool)
    (arguments : List Bytes) : Run Nat := do
  let (letters, operands) ← options "p" arguments
  if letters ≠ [] || operands = [] then put (← listed name marked)
  else
    for operand in operands do
      let variableName := operand.takeWhile (· ≠ Byte.equals)
      match operand.drop variableName.length with
      | _ :: value => assign variableName value
      | [] =>
        if !isName variableName then fail (variableName ++ (": bad variable name" : Bytes))
      putVariable (mark ((← lookup? variableName).getD { name := variableName }))
    return 0

/-- Forget variables or functions. -/
def unset (arguments : List Bytes) : Run Nat := do
  let (letters, operands) ← options "vf" arguments
  for operand in operands do
    if letters.getLast? = some 'f' then
      modify fun m => { m with functions := m.functions.filter fun entry => entry.1 != operand }
    else if !isName operand then fail (operand ++ (": bad variable name" : Bytes))
    else Run.unset operand
  return 0

/-- Remember a variable as it is, for the end of the function under way. -/
def keep (name : Bytes) : Run Unit := do
  let old ← lookup? name
  modify fun m =>
    { m with saved := m.saved.map fun kept =>
        if kept.bindings.any fun entry => entry.1 == name then kept
        else { kept with bindings := kept.bindings ++ [(name, old)] } }

/-- Remember the options as they are, for the end of the function under way. -/
def keepOptions : Run Unit :=
  modify fun m =>
    { m with saved := m.saved.map fun kept =>
        { kept with options := some (kept.options.getD m.options) } }

/-- Make variables the function's own. -/
def makeLocal (arguments : List Bytes) : Run Nat := do
  if (← get).saved.isNone then fail "not in a function"
  else
    for operand in arguments do
      let name := operand.takeWhile (· ≠ Byte.equals)
      if operand = [Byte.dash] then keepOptions
      else
        if !isName name then fail (name ++ (": bad variable name" : Bytes))
        keep name
        match operand.drop name.length with
        | _ :: value => assign name value
        | [] => pure ()
    return 0

/-- Leave out arguments at the front. -/
def shift (arguments : List Bytes) : Run Nat := do
  let count ← match arguments.head? with
    | some argument => number argument
    | none => pure 1
  if (← get).arguments.length < count then fail "can't shift that many"
  else
    modify fun m => { m with arguments := m.arguments.drop count, optionOffset := 0 }
    assign "OPTIND" "1"
    return 0

end ModuleMapper.Shell.Builtin
