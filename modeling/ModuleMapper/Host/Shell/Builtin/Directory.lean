import ModuleMapper.Host.Image
import ModuleMapper.Host.Shell.Builtin.Arguments

/-!
# The working directory — going to another one, and saying which it is

  A path that is not absolute may be looked for in other directories than the working directory. The
  shell remembers where it was before, and by which path it has come to where it is: a step up takes
  back the last name of that path.
-/

namespace ModuleMapper.Shell.Builtin

open scoped Bytes
open Run

/-- Is the first name of a path that of the working directory, or of the one around it? -/
def startsInDots (path : Path) : Bool :=
  let first := path.takeWhile (· ≠ Byte.slash)
  first == Path.here || first == Path.up

/-- The length of the slashes that an absolute path keeps at its front. Two are more than one, but three
    are not. -/
def keptSlashes : Path → Nat
  | a :: b :: rest =>
    if a = Byte.slash ∧ b = Byte.slash ∧ rest.head? ≠ some Byte.slash then 2 else 1
  | _ => 1

/-- A path without its last name; the slashes at its front stay. The path ends in a slash, and so does
    what is left. -/
def stepUp (kept : Nat) (path : Path) : Path :=
  if path.length ≤ kept then path
  else
    let above := (path.dropLast.reverse.dropWhile (· ≠ Byte.slash)).reverse
    if above.length < kept then path.take kept else above

/-- Follow names behind a path that ends in a slash. -/
def follow (kept : Nat) (path : Path) (names : List Bytes) : Path :=
  names.foldl
    (fun path name =>
      if name = [] ∨ name = Path.here then path
      else if name = Path.up then stepUp kept path
      else path ++ name ++ [Byte.slash])
    path

/-- Where a path leads by its names alone, from the place of the shell. -/
def destination (place path : Path) : Path :=
  let base := if path.isAbsolute then path.take (keptSlashes path)
    else if place.getLast? = some Byte.slash then place
    else place ++ [Byte.slash]
  let kept := if path.isAbsolute then base.length
    else if (place.drop 1).head? = some Byte.slash then 2 else 1
  let reached := follow kept base path.names
  if reached.length ≤ kept then reached else reached.dropLast

/-- Move to a directory. The result is whether there is one. -/
def move (physical : Bool) (path : Path) : Run Bool := do
  let m ← get
  let lexical := if physical || (m.place = [] && !path.isAbsolute) then none
    else some (destination m.place path)
  let before := m.process.files
  match Fixture.directory? before (lexical.getD path) with
  | none => return false
  | some location => do
    modifyProcess fun p => { p with files := { before with workingDir := location, adrift := false } }
    assignExported "OLDPWD" m.place
    let place := lexical.getD (FileSystem.pathOf location)
    modify fun m => { m with place }
    assignExported "PWD" place
    modify fun m => { m with tracked := m.tracked.map fun entry => { entry with doubtful := true } }
    return true
where
  /-- Give a variable a value, and hand it to programs from now on. -/
  assignExported (name value : Bytes) : Run Unit := do
    assign name value
    modify fun m =>
      { m with bindings := m.bindings.map fun v =>
          if v.name == name then { v with exported := true } else v }

/-- Is the physical path of the working directory asked for? -/
def asksPhysical (letters : List Char) : Bool := letters.getLast? == some 'P'

/-- The path in the first directory of a search path where it leads to a directory; and whether that
    directory has a name. -/
def searchDirectory? (files : FileSystem) (searched path : Path) : Option (Path × Bool) :=
  (Image.directoriesOf searched).findSome? fun directory =>
    let found := Image.within directory path
    (Fixture.directory? files found).map fun _ => (found, directory != [])

/-- Go to another directory. -/
def cd (arguments : List Bytes) : Run Nat := do
  let (letters, operands) ← options "LP" arguments
  let returns := operands.head? = some ("-" : Bytes)
  let target ← match operands.head? with
    | none => valueOf "HOME"
    | some operand => if returns then valueOf "OLDPWD" else pure (some operand)
  let target := target.getD []
  let target := if target = [] then Path.here else target
  let searched := (← valueOf "CDPATH").getD []
  let here ← files
  let found? := if Path.isAbsolute target || startsInDots target then none
    else searchDirectory? here searched target
  let (path, named) := found?.getD (target, false)
  if !(← move (asksPhysical letters) path) then fail ("can't cd to " ++ target)
  else if returns || named then put ((← get).place ++ [Byte.newline])
  else return 0

/-- Print the working directory. -/
def pwd (arguments : List Bytes) : Run Nat := do
  let (letters, _) ← options "LP" arguments
  let m ← get
  if !asksPhysical letters then put (m.place ++ [Byte.newline])
  else
    match m.process.files.currentDir with
    | .ok path => put (path ++ [Byte.newline])
    | .error cause => do
      warn (Bytes.ofString ("getcwd() failed: " ++ cause.text))
      put [Byte.newline]

end ModuleMapper.Shell.Builtin
