import ModuleMapper.Host.Utility.Catalogue

/-!
# Images — what is started for a path

  A file can be started if it may be executed and its first line names the program that is to read it.
  That program may again be such a file, up to a depth. What is started in the end is a program of the
  system, with the path of the file among its arguments.
-/

namespace ModuleMapper

open scoped Bytes

/-- A program of the system with its arguments. -/
structure Image where
  tool : Tool
  /-- The name it is called by. -/
  name : Bytes
  arguments : List Bytes

namespace Image

/-- The most bytes of one argument or variable. -/
def maxArgument : Nat := 131071

/-- Are some arguments or variables too long to be handed over? -/
def isTooLong (handedOver : List Bytes) : Bool :=
  handedOver.any fun bytes => maxArgument < bytes.length

/-- How much of a file is looked at. -/
def headerSize : Nat := 256

/-- Does the byte end a name in the first line? -/
def endsName (b : UInt8) : Bool := Byte.isBlank b || b == Byte.nul

/-- A text without the blanks at its end. -/
def trimEnd (bytes : Bytes) : Bytes := (bytes.reverse.dropWhile Byte.isBlank).reverse

/-- The program that a first line names, and the one argument that may stand behind it. -/
def splitHeader (line : Bytes) : Path × Option Bytes :=
  let line := line.dropWhile Byte.isBlank
  let name := line.takeWhile (!endsName ·)
  match line.drop name.length with
  | [] => (name, none)
  | b :: rest =>
    if b = Byte.nul then (name, none)
    else (name, some ((rest.dropWhile Byte.isBlank).takeWhile (· ≠ Byte.nul)))

/-- The program that the front of a file names. A name that may have been cut off does not count. -/
def interpreter? (content : Bytes) : Option (Path × Option Bytes) :=
  match content with
  | first :: second :: _ =>
    if first = Byte.hash ∧ second = Byte.exclamation then
      let header := content.take headerSize
      let header := (header ++ List.replicate (headerSize - header.length) Byte.nul).drop 2
      let line := header.takeWhile (· ≠ Byte.newline)
      if line.length < header.length then
        let line := trimEnd line
        if line.all Byte.isBlank then none else some (splitHeader line)
      else
        let named := header.dropWhile Byte.isBlank
        if named.any endsName then some (splitHeader (trimEnd header.dropLast)) else none
    else none
  | _ => none

/-- How often a file may name another that names another. -/
def maxDepth : Nat := 5

/-- What a path stands for: a program of the system, or the content of a file that may be executed. -/
def open? (files : FileSystem) (path : Path) : Except SystemError (Tool ⊕ Bytes) :=
  match Fixture.stat files (if path = [] then Path.here else path) with
  | .error cause => .error cause
  | .ok (.file content _ true) =>
    match (Fixture.imageName? content).bind Tool.named? with
    | some tool => .ok (.inl tool)
    | none => .ok (.inr content)
  | .ok _ => .error .permissionDenied

/-- What is started for a path that was opened. -/
def resolve (files : FileSystem) : Nat → Path → Bytes → List Bytes → Tool ⊕ Bytes →
    Except SystemError Image
  | _, _, name, arguments, .inl tool => .ok ⟨tool, name, arguments⟩
  | depth, path, _, arguments, .inr content =>
    match interpreter? content with
    | none => .error .notExecutable
    | some (interpreter, argument) =>
      match open? files interpreter with
      | .error cause => .error cause
      | .ok found =>
        match depth with
        | 0 => .error .tooManyLinks
        | depth + 1 =>
          resolve files depth interpreter interpreter (argument.toList ++ path :: arguments) found

/-- What is handed over to a program that is to be started. -/
structure Call where
  /-- The name it is called by. -/
  name : Bytes
  arguments : List Bytes
  /-- The variables, as they are handed over. -/
  environment : List Bytes := []

/-- What is started for a path. A path that leads to nothing that may be executed is reported first, then
    arguments that are too long, then a file that is no program. -/
def ofPath (files : FileSystem) (call : Call) (path : Path) : Except SystemError Image :=
  if path = [] then .error .notFound
  else
    match open? files path with
    | .error cause => .error cause
    | .ok found =>
      if isTooLong (call.name :: call.arguments ++ call.environment) then .error .argumentsTooLong
      else resolve files maxDepth path call.name call.arguments found

/-- The path of the system's shell. -/
def shellPath : Path := "/bin/sh"

/-- What is started for a path by those who take a file that is no program for a script of the shell. -/
def ofPathOrScript (files : FileSystem) (call : Call) (path : Path) : Except SystemError Image :=
  match ofPath files call path with
  | .error .notExecutable => .ok ⟨.shell, shellPath, path :: call.arguments⟩
  | found => found

/-! ## Search paths -/

/-- The directories of a search path; an empty one is the working directory. -/
def directoriesOf (searched : Bytes) : List Path := Bytes.splitAt Byte.colon searched

/-- A name in one of the directories. -/
def within (directory : Path) (name : Bytes) : Path :=
  if directory = [] then name else directory ++ Byte.slash :: name

/-- A name in each of the directories of a search path. -/
def candidates (searched name : Bytes) : List Path :=
  (directoriesOf searched).map fun directory => within directory name

/-- The place on a search path of the first file that may be executed. Obstacles other than missing files
    are reported if there is none. If a place is known from before, absolute paths are not looked at up to
    there. -/
def find (files : FileSystem) (known? : Option Nat) (searched name : Bytes) : Except SystemError Nat :=
  go .notFound 0 (candidates searched name)
where
  go (obstacle : SystemError) (place : Nat) : List Path → Except SystemError Nat
    | [] => .error obstacle
    | path :: others =>
      if path.isAbsolute && known?.any (place < ·) then go obstacle (place + 1) others
      else if path.isAbsolute && known? == some place then .ok place
      else
      match if path = [] then .error .notFound else open? files path with
      | .ok _ => .ok place
      | .error .notFound | .error .notDirectory => go obstacle (place + 1) others
      | .error cause => go cause (place + 1) others

/-- The most bytes of a search path that are measured. -/
def maxSearched : Nat := 4095

/-- The directories of a search path as the system itself takes them. One that is too long is taken for
    the working directory, or left out if it is the last. -/
def measured : List Path → List Path
  | [] => []
  | [directory] => if directory.length ≤ maxSearched then [directory] else []
  | directory :: others =>
    (if directory.length ≤ maxSearched then directory else []) :: measured others

/-- Can the search go on behind an obstacle? -/
def isPassable (cause : SystemError) : Bool :=
  cause == .notFound || cause == .notDirectory || cause == .permissionDenied

/-- Attempt to start a program by its name, which may be a path. Otherwise the attempt is made in each
    directory of a search path. If all fail, missing permission is what is reported, or else the last
    obstacle. -/
def attemptAll {α : Type} (attempt : Path → Except SystemError α) (searched name : Bytes) :
    Except SystemError α :=
  if name = [] then .error .notFound
  else if name.contains Byte.slash then attempt name
  else
    let kept := name.take (FileSystem.maxName + 1)
    go .noChild false ((measured (directoriesOf searched)).map fun directory => within directory kept)
where
  go (last : SystemError) (denied : Bool) : List Path → Except SystemError α
    | [] => .error (if denied then .permissionDenied else last)
    | path :: others =>
      match attempt path with
      | .ok result => .ok result
      | .error cause =>
        if isPassable cause then go cause (denied || cause == .permissionDenied) others
        else .error cause

end Image

end ModuleMapper
