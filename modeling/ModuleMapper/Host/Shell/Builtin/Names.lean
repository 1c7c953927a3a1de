import ModuleMapper.Host.Image
import ModuleMapper.Host.Shell.Builtin.Arguments
import ModuleMapper.Host.Shell.External
import ModuleMapper.Host.Shell.Grammar

/-!
# Names — what the name of a command stands for

  A name may be that of a keyword, an alias, a function, a builtin or a program. Special builtins come
  before functions, and the others behind them. The shell remembers the programs that it has found.
-/

namespace ModuleMapper.Shell.Builtin

open scoped Bytes
open Run

/-! ## Builtins -/

/-- The names of the special builtins, and of the others. -/
def builtinNames : List String × List String :=
  (Reading.specialNames,
   ["[", "alias", "bg", "cd", "chdir", "command", "echo", "false", "fg", "getopts", "hash", "jobs",
    "kill", "printf", "pwd", "read", "test", "true", "type", "ulimit", "umask", "unalias", "wait"])

/-- Is the name that of a builtin, and is it special? -/
def special? (name : Bytes) : Option Bool :=
  if builtinNames.1.any fun known => Bytes.ofString known == name then some true
  else if builtinNames.2.any fun known => Bytes.ofString known == name then some false
  else none

/-! ## Meanings -/

/-- What a name stands for. -/
inductive Meaning where
  | keyword
  | shorthand (text : Bytes)
  | function
  | builtin (special : Bool)
  | program (path : Path)

/-- What the name of a command stands for, with programs on the given search path or the usual one; and
    whether it is a program that was known before. -/
def recognize (searched? : Option Bytes) (name : Bytes) : Run (Option Meaning × Bool) := do
  let m ← get
  if (Keyword.ofBytes? name).isSome then return (some .keyword, false)
  else
    match m.aliases.lookup name, special? name, m.functions.lookup name with
    | some text, _, _ => return (some (.shorthand text), false)
    | none, some true, _ => return (some (.builtin true), false)
    | none, _, some _ => return (some .function, false)
    | none, some false, none => return (some (.builtin false), false)
    | none, none, none =>
      if name.contains Byte.slash then
        let found := (Fixture.stat m.process.files name).toOption.isSome
        return (if found then some (.program name) else none, false)
      else
        let usual := (← valueOf "PATH").getD []
        match m.tracked.find? fun entry => entry.name == name with
        | some entry =>
          let path := (Image.candidates usual name)[entry.place]?.getD name
          return (some (.program path), true)
        | none =>
          match ← findProgram searched? name with
          | .ok (path :: _) => return (some (.program path), false)
          | .ok [] | .error _ => return (none, false)

/-- Say what a name stands for. -/
def describe (name : Bytes) (tracked : Bool) : Option Meaning → Bytes
  | none => name ++ (": not found\n" : Bytes)
  | some .keyword => name ++ (" is a shell keyword\n" : Bytes)
  | some (.shorthand text) => name ++ (" is an alias for " : Bytes) ++ text ++ [Byte.newline]
  | some .function => name ++ (" is a shell function\n" : Bytes)
  | some (.builtin true) => name ++ (" is a special shell builtin\n" : Bytes)
  | some (.builtin false) => name ++ (" is a shell builtin\n" : Bytes)
  | some (.program path) =>
    let how : Bytes := if tracked then " is a tracked alias for " else " is "
    name ++ how ++ path ++ [Byte.newline]

/-- Say shortly what a name stands for. -/
def describeShortly (name : Bytes) : Option Meaning → Bytes
  | none => []
  | some (.shorthand text) => ("alias " : Bytes) ++ name ++ Byte.equals :: quoted text ++ [Byte.newline]
  | some (.program path) => path ++ [Byte.newline]
  | some _ => name ++ [Byte.newline]

/-- Say what names stand for. -/
def describeAll (names : List Bytes) : Run Nat := do
  let mut shown := []
  let mut status := 0
  for name in names do
    let (meaning, known) ← recognize none name
    if meaning.isNone then status := 127
    shown := shown ++ describe name known meaning
  put shown status

/-- Say what one name stands for, as `command` does. -/
def describeOne (searched? : Option Bytes) (verbose : Bool) (names : List Bytes) : Run Nat := do
  match names with
  | [] => return 0
  | name :: _ => do
    let (meaning, known) ← recognize searched? name
    let status := if meaning.isNone then 127 else 0
    put (if verbose then describe name known meaning else describeShortly name meaning) status

/-- Remember where programs are. -/
def hash (arguments : List Bytes) : Run Nat := do
  let (letters, operands) ← options "rv" arguments
  let searched := (← valueOf "PATH").getD []
  if letters.contains 'r' then
    modify fun m => { m with tracked := [] }
    return 0
  else if operands = [] then
    let row (entry : Tracked) : Bytes :=
      let path := (Image.candidates searched entry.name)[entry.place]?.getD entry.name
      path ++ (if entry.doubtful then [Byte.star] else []) ++ [Byte.newline]
    put ((Machine.inRows 31 Tracked.name (← get).tracked).flatMap row)
  else
    let mut status := 0
    for name in operands do
      untrack name
      if (← recognize none name).1.isNone then
        warn (name ++ (": not found" : Bytes))
        status := 1
    return status

/-! ## Aliases -/

/-- Define aliases, or show them. -/
def defineAliases (arguments : List Bytes) : Run Nat := do
  let row (entry : Bytes × Bytes) : Bytes :=
    entry.1 ++ Byte.equals :: quoted entry.2 ++ [Byte.newline]
  if arguments = [] then put ((Machine.inRows 39 Prod.fst (← get).aliases).flatMap row)
  else
    let mut status := 0
    let mut shown := []
    for argument in arguments do
      let name := argument.takeWhile (· ≠ Byte.equals)
      match argument.drop name.length with
      | _ :: value =>
        modify fun m =>
          let known := (m.aliases.lookup name).isSome
          { m with aliases :=
              if known then m.aliases.map fun entry => if entry.1 == name then (name, value) else entry
              else m.aliases ++ [(name, value)] }
      | [] =>
        match (← get).aliases.lookup name with
        | some value => shown := shown ++ row (name, value)
        | none =>
          say ("alias: " ++ name ++ " not found")
          status := 1
    put shown status

/-- Forget aliases. -/
def unalias (arguments : List Bytes) : Run Nat := do
  let (letters, operands) ← options "a" arguments
  if letters ≠ [] then
    modify fun m => { m with aliases := [] }
    return 0
  else
    let mut status := 0
    for name in operands do
      if ((← get).aliases.lookup name).isNone then
        say ("unalias: " ++ name ++ " not found")
        status := 1
      modify fun m => { m with aliases := m.aliases.filter fun entry => entry.1 != name }
    return status

end ModuleMapper.Shell.Builtin
