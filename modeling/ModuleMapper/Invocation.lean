import ModuleMapper.Settings
import ModuleMapper.Wire.Block

/-!
# Invocations — the commands that build artifacts

  A module is named in one of two ways. An absolute path, or one that starts with `./`, is a header
  that is compiled as it is. Any other name is that of a module, and a suffix makes it a source.

  An invocation tells the compiler to ask this very mapper for what the source imports, and passes the
  settings on in variables, so that the mapper it starts works like the one that started it.
-/

namespace ModuleMapper

/-- What a source is compiled as. -/
inductive UnitKind where
  | moduleUnit
  | headerUnit
  deriving Repr, DecidableEq

/-- A source, and what it is compiled as. -/
structure SourceUnit where
  source : Path
  kind : UnitKind
  deriving Repr, DecidableEq

namespace SourceUnit

/-- Is the name that of a header? -/
def isHeaderName (name : Word) : Bool :=
  Path.isAbsolute name || [Byte.dot, Byte.slash].isPrefixOf name

/-- The unit that a name refers to. -/
def ofName (name : Word) (suffix : String) : SourceUnit :=
  if isHeaderName name then ⟨name, .headerUnit⟩
  else ⟨name ++ Bytes.ofString suffix, .moduleUnit⟩

/-- The unit with its source taken from a directory, if there is one. -/
def within (unit : SourceUnit) : Option Path → SourceUnit
  | some directory => { unit with source := directory.join unit.source }
  | none => unit

end SourceUnit

/-- A command for a child. -/
structure Invocation where
  program : String
  arguments : List Bytes
  /-- Variables that are set for the child, on top of those it inherits. -/
  bindings : List (String × Bytes)
  deriving Repr, DecidableEq

namespace Invocation

/-- The arguments that say what is compiled. -/
def kindArguments : UnitKind → List Bytes
  | .moduleUnit => [Bytes.ofString "-c"]
  | .headerUnit => [Bytes.ofString "-x", Bytes.ofString "c++-system-header"]

/-- The variables that pass settings on. A prefix is passed on unless it is empty, a source directory
    if there is one. -/
def bindingsOf (settings : Settings) : List (String × Bytes) :=
  [(Setting.repositoryDir.variableName, settings.repositoryDir),
   (Setting.compiler.variableName, Bytes.ofString settings.compiler),
   (Setting.standard.variableName, Bytes.ofString settings.standard)]
  ++ (if settings.crossPrefix = "" then []
      else [(Setting.crossPrefix.variableName, Bytes.ofString settings.crossPrefix)])
  ++ settings.sourceDir.toList.map fun directory => (Setting.sourceDir.variableName, directory)

/-- The command that compiles a unit. Its source comes last. -/
def ofUnit (settings : Settings) (unit : SourceUnit) : Invocation where
  program := settings.executable
  arguments :=
    [Bytes.ofString ("-std=" ++ settings.standard),
     Bytes.ofString ("-fmodule-mapper=|" ++ settings.mapperCommand),
     Bytes.ofString "-fmodules-ts"]
    ++ kindArguments unit.kind ++ [unit.source]
  bindings := bindingsOf settings

/-- A command as one line to show. -/
def display (invocation : Invocation) : String :=
  " ".intercalate (invocation.program :: invocation.arguments.map Text.lossy)

end Invocation

end ModuleMapper
