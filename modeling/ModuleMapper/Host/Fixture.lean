import ModuleMapper.FileSystem
import ModuleMapper.Host.Text.Integer

/-!
# Fixtures — what every system has beside its files

  A system has directories, devices and programs of its own. They lie outside of the files that a
  process works on: nobody changes them, and what else their directories hold is not known. Some
  directories have a second path.
-/

namespace ModuleMapper

open scoped Bytes

/-- What a path leads to that is the name of no file. -/
inductive Device where
  /-- Nothing is read, and what is written is lost. -/
  | null
  /-- What a descriptor leads to. -/
  | descriptor (number : Nat)
  deriving Repr, DecidableEq

/-- Something that every system has. -/
inductive Fixture where
  | directory (location : Location)
  | device (device : Device)
  /-- A program, by its name. -/
  | program (name : Bytes)
  /-- A file that is there for everyone to read, whatever it holds. -/
  | record
  deriving Repr, DecidableEq

namespace Fixture

/-- The location of a path without fillers. -/
def locationOf (path : String) : Location :=
  ((Bytes.splitAt Byte.slash (Bytes.ofString path)).filter (· ≠ [])).reverse

/-- The directories. -/
def directories : List Location :=
  ["/boot", "/dev", "/dev/fd", "/dev/pts", "/dev/shm", "/etc", "/home", "/media", "/mnt", "/opt",
   "/proc", "/root", "/run", "/srv", "/sys", "/tmp", "/usr", "/usr/bin", "/usr/games", "/usr/include",
   "/usr/lib", "/usr/lib64", "/usr/libexec", "/usr/local", "/usr/local/bin", "/usr/local/etc",
   "/usr/local/include", "/usr/local/lib", "/usr/local/sbin", "/usr/local/share", "/usr/local/src",
   "/usr/sbin", "/usr/share", "/usr/src", "/var", "/var/cache", "/var/lib", "/var/log", "/var/tmp"].map
    locationOf

/-- Paths that lead to directories with other paths. -/
def links : List (Location × Location) :=
  [("/bin", "/usr/bin"), ("/lib", "/usr/lib"), ("/lib64", "/usr/lib64"), ("/sbin", "/usr/sbin"),
   ("/var/run", "/run")].map fun entry => (locationOf entry.1, locationOf entry.2)

/-- The names of the programs. -/
def programs : List String :=
  ["basename", "cat", "chmod", "cp", "cut", "dash", "dirname", "echo", "env", "false", "head", "id",
   "ls", "mkdir", "mv", "printenv", "pwd", "rev", "rm", "rmdir", "seq", "sh", "sleep", "sort", "tac",
   "tail", "tee", "touch", "tr", "true", "uname", "uniq", "wc", "whoami"]

/-- Files that everyone may read. -/
def records : List Location :=
  ["/etc/group", "/etc/hostname", "/etc/hosts", "/etc/passwd"].map locationOf

/-- The device at a location. -/
def device? (location : Location) : Option Device :=
  match location with
  | name :: above =>
    if above = locationOf "/dev" then
      match name.toString? with
      | some "null" => some .null
      | some "stdin" => some (.descriptor 0)
      | some "stdout" => some (.descriptor 1)
      | some "stderr" => some (.descriptor 2)
      | _ => none
    else if above = locationOf "/dev/fd" then
      (Integer.ofPlainDigits? name).map .descriptor
    else none
  | [] => none

/-- What lies at a location. -/
def find? (location : Location) : Option Fixture :=
  let target := (links.lookup location).getD location
  if target = [] ∨ directories.contains target then some (.directory target)
  else
    match device? target, target with
    | some found, _ => some (.device found)
    | none, name :: above =>
      if above = locationOf "/usr/bin" && programs.any (Bytes.ofString · == name) then
        some (.program name)
      else if records.contains target then some .record
      else none
    | none, [] => none

/-- Follow names one after the other. -/
def walk : Fixture → List Bytes → Except SystemError Fixture
  | place, [] => .ok place
  | .directory location, name :: others =>
    if name = Path.here then walk (.directory location) others
    else if name = Path.up then walk (.directory location.tail) others
    else if FileSystem.maxName < name.length then .error .nameTooLong
    else
      match find? (name :: location) with
      | some next => walk next others
      | none => .error .notFound
  | _, _ :: _ => .error .notDirectory

/-- What a program's file holds: its name, behind a mark that no script starts with. -/
def image (name : Bytes) : Bytes := 0x7F :: ("ELF" : Bytes) ++ name

/-- The name of the program that a file holds. -/
def imageName? (content : Bytes) : Option Bytes :=
  let mark := image []
  if mark.isPrefixOf content then some (content.drop mark.length) else none

/-- A fixture as an entry. A device holds nothing, and a record something. -/
def entry (fixture : Fixture) (now : Timestamp) : Entry :=
  match fixture with
  | directory _ => .directory now
  | device _ => .file [] now false
  | program name => .file (image name) now true
  | record => .file [Byte.newline] now false

/-- Does a name lead from the top directory to a fixture? -/
def isEntrance (name : Bytes) : Bool := (find? [name]).isSome

/-- What an absolute path leads to among the fixtures; none if it leads to the files. -/
def at? (path : Path) : Option (Except SystemError Fixture) :=
  if !path.isAbsolute then none
  else
    let names := FileSystem.steps path
    match names.dropWhile fun name => name == Path.here || name == Path.up with
    | [] => none
    | first :: _ =>
      if !isEntrance first then none
      else
        match FileSystem.checkPath path with
        | .error cause => some (.error cause)
        | .ok () =>
          let final := if path.getLast? = some Byte.slash then [Path.here] else []
          some (walk (.directory []) (names ++ final))

/-- A path from the top directory, if the working directory is one of the fixtures. -/
def fromTop (files : FileSystem) (path : Path) : Path :=
  if path = [] || files.workingDir = [] || (find? files.workingDir).isNone then path
  else (FileSystem.pathOf files.workingDir).join path

/-- What a path leads to among the fixtures for a process that may work there. -/
def lookup? (files : FileSystem) (path : Path) : Option (Except SystemError Fixture) :=
  at? (fromTop files path)

/-- What a path leads to, among the fixtures or the files. -/
def stat (files : FileSystem) (path : Path) : Except SystemError Entry :=
  match lookup? files path with
  | none => files.stat path
  | some (.ok fixture) => .ok (fixture.entry files.now)
  | some (.error cause) => .error cause

/-- Does the last name of a path lead somewhere else? -/
def isLink (files : FileSystem) (path : Path) : Bool :=
  let names := FileSystem.steps (fromTop files path)
  path.getLast? ≠ some Byte.slash && names.head?.any isEntrance
    && match walk (.directory []) names.dropLast with
      | .ok (.directory location) =>
        let target := (names.getLast?.getD []) :: location
        (links.lookup target).isSome || target == locationOf "/usr/bin/sh"
          || [locationOf "/dev/fd", locationOf "/dev/stdin", locationOf "/dev/stdout",
              locationOf "/dev/stderr"].contains target
      | _ => false

/-- The location of the directory that a path leads to. -/
def directory? (files : FileSystem) (path : Path) : Option Location :=
  match lookup? files path with
  | some (.ok (.directory location)) => some location
  | some _ => none
  | none =>
    match files.lookup path with
    | .ok (.entry location) =>
      if (files.find? location).any Entry.isDirectory then some location else none
    | _ => none

end Fixture

end ModuleMapper
