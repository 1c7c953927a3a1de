import ModuleMapper.FileSystem.Change

/-!
# Trees — the names in a directory, and their removal and renaming

  A file can be unlinked, an empty directory removed, and an entry given another name, also in another
  directory. What lies below a directory goes with it.
-/

namespace ModuleMapper.FileSystem

/-- The names in a directory, sorted by bytes. -/
def namesIn (files : FileSystem) (directory : Location) : List Bytes :=
  let names := files.entries.filterMap fun (location, _) =>
    match location with
    | name :: parent => if parent = directory then some name else none
    | [] => none
  names.mergeSort fun a b => decide (a ≤ b)

/-- The names in the directory at the end of a path. -/
def namesAt (files : FileSystem) (path : Path) : Except SystemError (List Bytes) :=
  match files.lookup path with
  | .error cause => .error cause
  | .ok .adrift => .ok []
  | .ok (.entry location) =>
    match files.find? location with
    | some (.directory _) => .ok (files.namesIn location)
    | some (.file ..) => .error .notDirectory
    | none => .error .notFound

/-- Does something lie at the end of a path? -/
def holds (files : FileSystem) (path : Path) : Bool :=
  match files.stat path with
  | .ok _ => true
  | .error _ => false

/-- The last name of a path, and whether it is a directory's own name or its parent's. -/
def endsInDots (path : Path) : Bool :=
  match (steps path).getLast? with
  | some name => name == Path.here || name == Path.up
  | none => false

/-- Remove a file. -/
def unlink (files : FileSystem) (path : Path) : Except SystemError FileSystem :=
  match files.lookup path with
  | .error cause => .error cause
  | .ok .adrift => .error .isDirectory
  | .ok (.entry location) =>
    match files.find? location with
    | some (.file ..) => .ok (files.removeAt location)
    | some (.directory _) => .error .isDirectory
    | none => .error .notFound

/-- Remove an empty directory. -/
def removeDirectory (files : FileSystem) (path : Path) : Except SystemError FileSystem :=
  match files.lookup path with
  | .error cause => .error cause
  | .ok .adrift => .error .invalidArgument
  | .ok (.entry location) =>
    match files.find? location with
    | some (.file ..) => .error .notDirectory
    | some (.directory _) =>
      if (steps path).getLast? = some Path.here then .error .invalidArgument
      else if files.namesIn location ≠ [] then .error .notEmpty
      else .ok (files.removeAt location)
    | none => .error .notFound

/-- A location below one directory, taken below another. -/
def rebase (old new location : Location) : Location :=
  if old.isSuffixOf location then location.take (location.length - old.length) ++ new else location

/-- Give an entry another location, and all that lies below it. What lay there before is lost. -/
def relocate (files : FileSystem) (old new : Location) : FileSystem :=
  if old = new then files
  else
    let kept := { files with entries := files.entries.filter fun entry => entry.1 != new }
    let moved :=
      { kept with
        entries := kept.entries.map fun (location, entry) => (rebase old new location, entry)
        workingDir := rebase old new kept.workingDir }
    (moved.touch old.tail).touch new.tail

/-- Give an entry a path at which something else may lie. -/
def renameTo (files : FileSystem) (old : Location) (entry : Entry) (target : Path) :
    Except SystemError FileSystem :=
  match entry, files.lookup target with
  | .file .., .ok (.entry new) =>
    if (files.find? new).any Entry.isDirectory then .error .isDirectory
    else .ok (files.relocate old new)
  | .directory _, .ok (.entry new) =>
    if old.isSuffixOf new && old != new then .error .invalidArgument
    else if (files.find? new).any fun entry => !entry.isDirectory then .error .notDirectory
    else if files.namesIn new ≠ [] && old != new then .error .notEmpty
    else .ok (files.relocate old new)
  | _, .ok .adrift => .error .isDirectory
  | entry, .error .notFound =>
    if target.getLast? = some Byte.slash && !entry.isDirectory then .error .notDirectory
    else
      match files.slot target with
      | .error cause => .error cause
      | .ok slot =>
        if old.isSuffixOf slot.directory then .error .invalidArgument
        else .ok (files.relocate old (slot.name :: slot.directory))
  | _, .error cause => .error cause

/-- Give an entry another path. A directory is not to be taken by its own name or its parent's. -/
def rename (files : FileSystem) (path target : Path) : Except SystemError FileSystem :=
  match files.lookup path with
  | .error cause => .error cause
  | .ok .adrift => .error .invalidArgument
  | .ok (.entry old) =>
    match files.find? old with
    | none => .error .notFound
    | some entry =>
      if endsInDots path || (endsInDots target && files.holds target) then .error .busy
      else files.renameTo old entry target

/-- Say whether a file may be executed. -/
def setExecutable (files : FileSystem) (path : Path) (executable : Bool) :
    Except SystemError FileSystem :=
  match files.lookup path with
  | .error cause => .error cause
  | .ok .adrift => .ok files
  | .ok (.entry location) =>
    match files.find? location with
    | some (.file content modified _) => .ok (files.put location (.file content modified executable))
    | _ => .ok files

end ModuleMapper.FileSystem
