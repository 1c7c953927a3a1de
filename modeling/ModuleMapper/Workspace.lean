import ModuleMapper.Artifact
import ModuleMapper.Invocation
import ModuleMapper.Repository

/-!
# Workspaces — bringing artifacts up to date

  A mapper is its settings and a compiler; a workspace is what it works on: the files, whatever the
  compiler keeps for itself, and a journal of the compilations so far.

  To import a module means to find the path of its artifact, to create the directories above it, to
  compare it with its source, and to compile if it is missing or stale. The first of these steps that
  fails is the last one taken.
-/

namespace ModuleMapper

/-- Something that compiles a module. It may change the files and what it keeps for itself. -/
structure Compiler (σ : Type) where
  compile : (name : String) → Invocation → σ → FileSystem → Except Failure Unit × σ × FileSystem

/-- What does not change while a mapper runs. -/
structure Mapper (σ : Type) where
  settings : Settings
  compiler : Compiler σ

/-- One call of the compiler. -/
structure Compilation where
  name : String
  invocation : Invocation
  /-- Why it failed, if it did. -/
  failure : Option Failure
  deriving Repr, DecidableEq

/-- What a mapper works on. -/
structure Workspace (σ : Type) where
  files : FileSystem
  /-- What the compiler keeps for itself. -/
  compilerState : σ
  /-- The compilations so far, in order. -/
  journal : List Compilation := []
  deriving Repr, DecidableEq

namespace Workspace

variable {σ : Type}

/-- Compile, and note it in the journal. -/
def compile (w : Workspace σ) (compiler : Compiler σ) (name : String) (invocation : Invocation) :
    Except Failure Unit × Workspace σ :=
  match compiler.compile name invocation w.compilerState w.files with
  | (.ok (), compilerState, files) =>
    (.ok (), ⟨files, compilerState, w.journal ++ [⟨name, invocation, none⟩]⟩)
  | (.error failure, compilerState, files) =>
    (.error failure, ⟨files, compilerState, w.journal ++ [⟨name, invocation, some failure⟩]⟩)

end Workspace

namespace Mapper

variable {σ : Type}

/-- Where the mapper keeps its artifacts. -/
def repository (mapper : Mapper σ) : Repository := ⟨mapper.settings.repositoryDir⟩

/-- The unit that a name refers to, with the source that is to be examined and compiled. -/
def unitOf (mapper : Mapper σ) (name : Word) : SourceUnit :=
  (SourceUnit.ofName name mapper.settings.sourceSuffix).within mapper.settings.sourceDir

/-- The command that builds the artifact of a name. -/
def invocationOf (mapper : Mapper σ) (name : Word) : Invocation :=
  Invocation.ofUnit mapper.settings (mapper.unitOf name)

/-- Create the repository if need be. The answer is its absolute path. -/
def provideRepository (mapper : Mapper σ) (w : Workspace σ) : Except Failure Path × Workspace σ :=
  let (outcome, files) := mapper.repository.provideRoot w.files
  (outcome, { w with files })

/-- The path of a module's artifact inside the repository. No file is looked at. -/
def pathOf (mapper : Mapper σ) (client : Client) (name : Word) : Except Failure Path :=
  match Artifact.checkName name with
  | .error failure => .error failure
  | .ok () => .ok (Artifact.path name mapper.settings.crossPrefix client)

/-- Build an artifact if it needs it. -/
def refresh (mapper : Mapper σ) (name : Word) (file : Path) (w : Workspace σ) :
    Except Failure Unit × Workspace σ :=
  match Freshness.of w.files file (mapper.unitOf name).source with
  | .error failure => (.error failure, w)
  | .ok freshness =>
    if freshness.isOutdated then
      w.compile mapper.compiler (Text.lossy name) (mapper.invocationOf name)
    else (.ok (), w)

/-- Bring a module's artifact up to date. The answer is its path inside the repository. -/
def importModule (mapper : Mapper σ) (client : Client) (name : Word) (w : Workspace σ) :
    Except Failure Path × Workspace σ :=
  match mapper.pathOf client name with
  | .error failure => (.error failure, w)
  | .ok artifact =>
    match mapper.repository.prepare artifact w.files with
    | (.error failure, files) => (.error failure, { w with files })
    | (.ok file, files) =>
      match mapper.refresh name file { w with files } with
      | (.error failure, w) => (.error failure, w)
      | (.ok (), w) => (.ok artifact, w)

end Mapper

end ModuleMapper
