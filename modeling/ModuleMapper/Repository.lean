import ModuleMapper.Failure
import ModuleMapper.FileSystem

/-!
# Repository — the directory of the artifacts

  Directories are created when they are first needed, and nothing is ever removed. An artifact is
  fresh when it changed strictly after its source did. While there is no artifact nobody looks at
  the source.
-/

namespace ModuleMapper

/-- How an artifact stands to its source. -/
inductive Freshness where
  /-- There is no artifact. -/
  | missing
  /-- The artifact did not change after its source. -/
  | stale
  | fresh
  deriving Repr, DecidableEq

namespace Freshness

/-- Has the artifact to be built? -/
def isOutdated : Freshness → Bool
  | missing | stale => true
  | fresh => false

/-- How an artifact stands to its source, by the times at which they changed. -/
def ofTimes (artifact source : Timestamp) : Freshness :=
  if source.before artifact then fresh else stale

/-- How an artifact stands to its source, by their paths. -/
def of (files : FileSystem) (artifact source : Path) : Except Failure Freshness :=
  match files.stat artifact with
  | .error .notFound => .ok .missing
  | .error cause => .error (.artifactStat artifact cause)
  | .ok found =>
    match files.stat source with
    | .error cause => .error (.sourceStat source cause)
    | .ok origin => .ok (ofTimes found.modified origin.modified)

end Freshness

/-- A directory for artifacts. -/
structure Repository where
  root : Path
  deriving Repr, DecidableEq

namespace Repository

/-- The root as an absolute path. -/
def absoluteRoot (repository : Repository) (files : FileSystem) : Except Failure Path :=
  if repository.root.isAbsolute then .ok repository.root
  else
    match files.currentDir with
    | .ok directory => .ok (directory.join repository.root)
    | .error cause => .error (.repositoryPath cause)

/-- Create a directory and those above it. -/
def provide (files : FileSystem) (directory : Path) : Except Failure Unit × FileSystem :=
  match files.makeDirectories directory with
  | (.ok (), files) => (.ok (), files)
  | (.error cause, files) => (.error (.repositoryCreate cause), files)

/-- Create the root if need be. The answer is its absolute path. -/
def provideRoot (repository : Repository) (files : FileSystem) : Except Failure Path × FileSystem :=
  match repository.absoluteRoot files with
  | .error failure => (.error failure, files)
  | .ok root =>
    match provide files root with
    | (.ok (), files) => (.ok root, files)
    | (.error failure, files) => (.error failure, files)

/-- The file of an artifact, given its path inside the repository. -/
def fileOf (repository : Repository) (artifact : Path) : Path :=
  repository.root.join artifact

/-- Create the directories above an artifact. The answer is its file. -/
def prepare (repository : Repository) (artifact : Path) (files : FileSystem) :
    Except Failure Path × FileSystem :=
  let file := repository.fileOf artifact
  match file.parent? with
  | none => (.ok file, files)
  | some directory =>
    match provide files directory with
    | (.ok (), files) => (.ok file, files)
    | (.error failure, files) => (.error failure, files)

end Repository

end ModuleMapper
