import ModuleMapper.FileSystem.Content

/-!
# Changes — what others do to the files

  While a mapper runs, others write sources, touch them and remove them. A change that cannot be made
  leaves the files as they are.
-/

namespace ModuleMapper

/-- A change from outside. Without a time of its own it happens now. -/
inductive Change where
  /-- Write a file, and create the directories above it. -/
  | write (path : Path) (content : Bytes) (executable : Bool) (time : Option Timestamp)
  /-- Create a directory and those above it. -/
  | makeDirectory (path : Path) (time : Option Timestamp)
  /-- Set the time of change. -/
  | touch (path : Path) (time : Option Timestamp)
  /-- Remove a file, or a directory with all that lies in it. -/
  | remove (path : Path)
  deriving Repr, DecidableEq

namespace FileSystem

/-- Set the time of change of what a path leads to. -/
def setTime (files : FileSystem) (path : Path) (time : Timestamp) : FileSystem :=
  match files.lookup path with
  | .ok (.entry location) =>
    match files.find? location with
    | some entry => files.put location (entry.changedAt time)
    | none => files
  | .ok .adrift | .error _ => files

/-- Write a whole file, and create the directories above it. -/
def writeFile (files : FileSystem) (path : Path) (content : Bytes) (executable : Bool)
    (time : Timestamp) : FileSystem :=
  let files := match path.parent? with
    | some parent => (files.makeDirectories parent).2
    | none => files
  match files.openFile path with
  | .ok (location, files) => files.put location (.file content time executable)
  | .error _ => files

/-- Remove what lies at a location, and all below it. Who stands there stands nowhere afterwards. -/
def removeAt (files : FileSystem) (location : Location) : FileSystem :=
  let files := match location with
    | _ :: directory => files.touch directory
    | [] => files
  { files with
    entries := files.entries.filter fun old => !location.isSuffixOf old.1
    adrift := files.adrift || location.isSuffixOf files.workingDir }

/-- Make a change. -/
def apply (files : FileSystem) : Change → FileSystem
  | .write path content executable time =>
    files.writeFile path content executable (time.getD files.now)
  | .makeDirectory path time =>
    let made := (files.makeDirectories path).2
    match time with
    | some time => made.setTime path time
    | none => made
  | .touch path time => files.setTime path (time.getD files.now)
  | .remove path =>
    match files.lookup path with
    | .ok (.entry location) => if location = [] then files else files.removeAt location
    | .ok .adrift | .error _ => files

/-- Make changes one after the other. -/
def applyAll (files : FileSystem) (changes : List Change) : FileSystem :=
  changes.foldl apply files

end FileSystem

end ModuleMapper
