import ModuleMapper.Path
import ModuleMapper.SystemError

/-!
# File systems — directories, files and when they were last changed

  A file system maps locations to entries. A location lists the names from an entry up to the top
  directory, so that the entry's directory is the tail. A process stands in a working directory, and
  still does when that has been removed: then it stands nowhere, and only `.` and `..` lead on.

  `lookup` follows a path name by name, as the system does. What it reports is the first obstacle: a
  missing entry, a name asked of a file, a name or a path that is too long. There are no permissions and
  no links, and no file system is full or read-only.
-/

namespace ModuleMapper

/-- A point in time, in seconds and nanoseconds. -/
structure Timestamp where
  seconds : Int
  nanoseconds : Nat
  deriving Repr, DecidableEq

namespace Timestamp

/-- Is the first time strictly before the second? -/
def before (s t : Timestamp) : Bool :=
  s.seconds < t.seconds || (s.seconds == t.seconds && s.nanoseconds < t.nanoseconds)

end Timestamp

/-- Where an entry is: its name, its directory's name, and so on up to the top directory, `[]`. -/
abbrev Location := List Bytes

/-- What lies at a location. -/
inductive Entry where
  | file (content : Bytes) (modified : Timestamp) (executable : Bool)
  | directory (modified : Timestamp)
  deriving Repr, DecidableEq

namespace Entry

/-- When the entry was last changed. -/
def modified : Entry → Timestamp
  | file _ modified _ => modified
  | directory modified => modified

/-- What a file holds. A directory holds no bytes. -/
def content : Entry → Bytes
  | file content _ _ => content
  | directory _ => []

/-- Is the entry a directory? -/
def isDirectory : Entry → Bool
  | directory _ => true
  | file .. => false

/-- The entry with another time of change. -/
def changedAt (time : Timestamp) : Entry → Entry
  | file content _ executable => file content time executable
  | directory _ => directory time

end Entry

/-- The files that a process sees, and where it stands among them. -/
structure FileSystem where
  entries : List (Location × Entry)
  workingDir : Location
  /-- Has the working directory been removed? -/
  adrift : Bool := false
  /-- The time of what is done now. -/
  now : Timestamp
  deriving Repr, DecidableEq

/-- How far a path has led. -/
inductive Place where
  | entry (location : Location)
  /-- The working directory after its removal. -/
  | adrift
  deriving Repr, DecidableEq

namespace FileSystem

/-! ## Entries -/

/-- The entry at a location. -/
def find? (files : FileSystem) (location : Location) : Option Entry :=
  files.entries.lookup location

/-- Put an entry at a location. -/
def put (files : FileSystem) (location : Location) (entry : Entry) : FileSystem :=
  { files with
    entries := (location, entry) :: files.entries.filter fun old => old.1 != location }

/-- Note that a directory has changed now. -/
def touch (files : FileSystem) (location : Location) : FileSystem :=
  match files.find? location with
  | some entry => files.put location (entry.changedAt files.now)
  | none => files

/-- Put a new entry into a directory. -/
def create (files : FileSystem) (directory : Location) (name : Bytes) (entry : Entry) :
    FileSystem :=
  (files.touch directory).put (name :: directory) entry

theorem lookup_filter_ne {entries : List (Location × Entry)} {location other : Location}
    (h : other ≠ location) :
    (entries.filter fun old => old.1 != location).lookup other = entries.lookup other := by
  induction entries with
  | nil => rfl
  | cons head tail ih =>
    obtain ⟨place, entry⟩ := head
    by_cases hp : place = location
    · subst hp
      have hb : (other == place) = false := by simpa using h
      simp [List.lookup_cons, ih, hb]
    · by_cases ho : other == place <;> simp [hp, List.lookup_cons, ho, ih]

@[simp] theorem find?_put_self (files : FileSystem) (location : Location) (entry : Entry) :
    (files.put location entry).find? location = some entry := by
  simp [find?, put]

theorem find?_put_of_ne {files : FileSystem} {location other : Location} {entry : Entry}
    (h : other ≠ location) : (files.put location entry).find? other = files.find? other := by
  have hb : (other == location) = false := by simpa using h
  simp only [find?, put, List.lookup_cons, hb]
  exact lookup_filter_ne h

/-! ## Following a path -/

/-- The most bytes of a name. -/
def maxName : Nat := 255

/-- The most bytes of a path. -/
def maxPath : Nat := 4095

/-- Follow one name. -/
def step (files : FileSystem) (place : Place) (name : Bytes) : Except SystemError Place :=
  match place with
  | .adrift =>
    if name = Path.here then .ok .adrift
    else if name = Path.up then .ok (.entry files.workingDir.tail)
    else .error .notFound
  | .entry location =>
    match files.find? location with
    | none => .error .notFound
    | some (.file ..) => .error .notDirectory
    | some (.directory _) =>
      if name = Path.here then .ok place
      else if name = Path.up then .ok (.entry location.tail)
      else if maxName < name.length then .error .nameTooLong
      else if (files.find? (name :: location)).isSome then .ok (.entry (name :: location))
      else .error .notFound

/-- Follow names one after the other. -/
def walk (files : FileSystem) (place : Place) : List Bytes → Except SystemError Place
  | [] => .ok place
  | name :: others =>
    match files.step place name with
    | .ok next => files.walk next others
    | .error cause => .error cause

/-- Where a path starts. -/
def start (files : FileSystem) (path : Path) : Place :=
  if path.isAbsolute then .entry []
  else if files.adrift then .adrift
  else .entry files.workingDir

/-- Refuse the byte strings that are no path. -/
def checkPath (path : Path) : Except SystemError Unit :=
  if path.contains Byte.nul then .error .nulInPath
  else if path = [] then .error .notFound
  else if maxPath < path.length then .error .nameTooLong
  else .ok ()

/-- The names that a path leads through. -/
def steps (path : Path) : List Bytes := path.names.filter (· ≠ [])

/-- The place that a path leads to. Behind a final slash only a directory will do. -/
def lookup (files : FileSystem) (path : Path) : Except SystemError Place :=
  match checkPath path with
  | .error cause => .error cause
  | .ok () =>
    let final := if path.getLast? = some Byte.slash then [Path.here] else []
    files.walk (files.start path) (steps path ++ final)

/-- The entry at the end of a path. -/
def stat (files : FileSystem) (path : Path) : Except SystemError Entry :=
  match files.lookup path with
  | .error cause => .error cause
  | .ok .adrift => .ok (.directory files.now)
  | .ok (.entry location) =>
    match files.find? location with
    | some entry => .ok entry
    | none => .error .notFound

/-- Does the path lead to a directory? -/
def isDirectory (files : FileSystem) (path : Path) : Bool :=
  match files.stat path with
  | .ok entry => entry.isDirectory
  | .error _ => false

/-! ## The last name of a path -/

/-- Where the last name of a path is to be put. -/
structure Slot where
  directory : Location
  name : Bytes
  deriving Repr, DecidableEq

/-- The slot that a path names for a new entry, or why there is none. A directory's own name and its
    parent's are taken. -/
def slot (files : FileSystem) (path : Path) : Except SystemError Slot :=
  match checkPath path with
  | .error cause => .error cause
  | .ok () =>
    match (steps path).getLast? with
    | none => .error .alreadyExists
    | some name =>
      match files.walk (files.start path) (steps path).dropLast with
      | .error cause => .error cause
      | .ok .adrift =>
        if name = Path.here ∨ name = Path.up then .error .alreadyExists else .error .notFound
      | .ok (.entry location) =>
        match files.find? location with
        | none => .error .notFound
        | some (.file ..) => .error .notDirectory
        | some (.directory _) =>
          if name = Path.here ∨ name = Path.up then .error .alreadyExists
          else if maxName < name.length then .error .nameTooLong
          else .ok ⟨location, name⟩

/-! ## Directories -/

/-- Create one directory. -/
def makeDirectory (files : FileSystem) (path : Path) : Except SystemError FileSystem :=
  match files.slot path with
  | .error cause => .error cause
  | .ok slot =>
    if (files.find? (slot.name :: slot.directory)).isSome then .error .alreadyExists
    else .ok (files.create slot.directory slot.name (.directory files.now))

/-- Create a directory and all that are missing above it. A directory that is there already is as
    good as a new one. -/
def makeDirectories (files : FileSystem) (path : Path) : Except SystemError Unit × FileSystem :=
  if path = [] then (.ok (), files)
  else
    match files.makeDirectory path with
    | .ok files => (.ok (), files)
    | .error .notFound =>
      match _ : path.parent? with
      | none => (.error .notFound, files)
      | some parent =>
        match makeDirectories files parent with
        | (.error cause, files) => (.error cause, files)
        | (.ok (), files) =>
          match files.makeDirectory path with
          | .ok files => (.ok (), files)
          | .error cause => if files.isDirectory path then (.ok (), files) else (.error cause, files)
    | .error cause => if files.isDirectory path then (.ok (), files) else (.error cause, files)
termination_by path.length
decreasing_by exact Path.length_parent?_lt (by assumption)

/-- The path of a location. -/
def pathOf (location : Location) : Path := Byte.slash :: Path.ofNames location.reverse

/-- The path of the working directory, as long as it is there. -/
def currentDir (files : FileSystem) : Except SystemError Path :=
  if files.adrift then .error .notFound else .ok (pathOf files.workingDir)

end FileSystem

end ModuleMapper
