import ModuleMapper.Host.Shell.Machine

/-!
# Arguments — what builtins are told and what they say

  A builtin works on the state of the shell, and ends with a status. Options are letters behind a
  dash; the first other argument ends them. What a builtin prints appears when it is done, behind its
  diagnostics.
-/

namespace ModuleMapper.Shell.Builtin

open scoped Bytes
open Run

/-- Print. -/
def put (bytes : Bytes) (status : Nat := 0) : Run Nat := do
  if bytes = [] then return status
  else
    match ← write 1 bytes with
    | .ok () => return status
    | .error _ => do
      let speaker := (← get).speaker.getD []
      warn (speaker ++ (": I/O error" : Bytes))
      return status ||| 1

/-- The letters at the front of the arguments that are options, and the other arguments; or a letter
    that is none. -/
def splitOptions (allowed : String) : List Bytes → Except UInt8 (List Char × List Bytes)
  | [] => .ok ([], [])
  | argument :: others =>
    match argument with
    | dash :: b :: rest =>
      if dash ≠ Byte.dash then .ok ([], argument :: others)
      else if b = Byte.dash ∧ rest = [] then .ok ([], others)
      else
        match (b :: rest).find? fun b => !Byte.isOneOf b allowed with
        | some wrong => .error wrong
        | none =>
          (splitOptions allowed others).map fun (letters, operands) =>
            ((b :: rest).map Byte.char ++ letters, operands)
    | _ => .ok ([], argument :: others)

/-- Tell options from other arguments. -/
def options (allowed : String) (arguments : List Bytes) : Run (List Char × List Bytes) :=
  match splitOptions allowed arguments with
  | .ok found => return found
  | .error wrong => fail ("Illegal option -" ++ [wrong])

/-- The number that an argument writes with digits alone. -/
def number (argument : Bytes) : Run Nat :=
  match Integer.ofPlainDigits? argument with
  | some n => if n < 0x80000000 then return n else fail ("Illegal number: " ++ argument)
  | none => fail ("Illegal number: " ++ argument)

/-- A text in parts of so many bytes at most, in turn in single quotes and, where it has single quotes
    itself, in double quotes. -/
def quotedParts : Nat → Bytes → Bytes
  | 0, _ => []
  | fuel + 1, text =>
    let plain := text.takeWhile (· ≠ Byte.quote)
    let rest := text.drop plain.length
    let quotes := rest.takeWhile (· = Byte.quote)
    let shown := Byte.quote :: plain ++ [Byte.quote]
    if quotes = [] then shown
    else
      let shown := shown ++ Byte.doubleQuote :: quotes ++ [Byte.doubleQuote]
      match rest.drop quotes.length with
      | [] => shown
      | after => shown ++ quotedParts fuel after

/-- A text in quotes, as a shell would read it back. -/
def quoted (text : Bytes) : Bytes := quotedParts (text.length + 1) text

/-- Variables in order of their names, each on a line. -/
def listed (front : Bytes) (chosen : Variable → Bool) : Run Bytes := do
  let sorted := ((← get).bindings.filter chosen).mergeSort fun a b => decide (a.name ≤ b.name)
  return sorted.flatMap fun v =>
    let front := if front = [] then [] else front ++ [Byte.space]
    match v.value with
    | some value => front ++ v.name ++ Byte.equals :: quoted value ++ [Byte.newline]
    | none => if front = [] then [] else front ++ v.name ++ [Byte.newline]

end ModuleMapper.Shell.Builtin
