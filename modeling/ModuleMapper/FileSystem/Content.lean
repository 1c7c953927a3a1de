import ModuleMapper.FileSystem

/-!
# Contents — reading files, writing them, and what lies below the working directory

  A file is opened for writing by its path, and written by its location after that. A file that is
  missing is created empty, and nobody may execute it.
-/

namespace ModuleMapper.FileSystem

/-- The content of the file at the end of a path. -/
def contentOf (files : FileSystem) (path : Path) : Except SystemError Bytes :=
  match files.stat path with
  | .ok (.file content _ _) => .ok content
  | .ok (.directory _) => .error .isDirectory
  | .error cause => .error cause

/-- Open the file at the end of a path for writing, and create it if it is missing. -/
def openFile (files : FileSystem) (path : Path) : Except SystemError (Location × FileSystem) :=
  match files.lookup path with
  | .ok (.entry location) =>
    match files.find? location with
    | some (.file ..) => .ok (location, files)
    | some (.directory _) => .error .isDirectory
    | none => .error .notFound
  | .ok .adrift => .error .isDirectory
  | .error .notFound =>
    if path.getLast? = some Byte.slash then .error .isDirectory
    else
      match files.slot path with
      | .error cause => .error cause
      | .ok slot =>
        .ok (slot.name :: slot.directory,
          files.create slot.directory slot.name (.file [] files.now false))
  | .error cause => .error cause

/-- Give the file at a location another content. It changes now, and stays as executable as it was. -/
def modifyFile (files : FileSystem) (location : Location) (content : Bytes → Bytes) : FileSystem :=
  match files.find? location with
  | some (.file old _ executable) => files.put location (.file (content old) files.now executable)
  | some (.directory _) | none => files

/-- The paths below a directory, from there: those of directories end in a slash. Sorted by bytes. -/
def below (files : FileSystem) (directory : Location) : List Path :=
  let found := files.entries.filterMap fun (location, entry) =>
    if directory.isSuffixOf location && location != directory then
      let names := (location.take (location.length - directory.length)).reverse
      some (Path.ofNames names ++ if entry.isDirectory then [Byte.slash] else [])
    else none
  found.mergeSort fun a b => decide (a ≤ b)

/-- The paths below the working directory; none when it has been removed. -/
def listing (files : FileSystem) : List Path :=
  if files.adrift then [] else files.below files.workingDir

end ModuleMapper.FileSystem
