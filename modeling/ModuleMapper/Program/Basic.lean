import ModuleMapper.Child
import ModuleMapper.CommandLine
import ModuleMapper.Connection
import ModuleMapper.Wire.Outline

/-!
# The program — one mapper from its command line to its exit status

  A mapper serves one connection over its input and output, and starts compilers as children of its
  launcher. It can also just show the blocks that it is sent. It succeeds when its input was served, or
  shown, to its end.
-/

namespace ModuleMapper.Program

/-- How a program is started. -/
structure Start where
  /-- The name the program was called by: what a compiler is to call in turn. -/
  name : Bytes
  arguments : List Bytes
  environment : List (String × Bytes)
  input : Bytes
  files : FileSystem

/-- What a program leaves behind. -/
structure Result where
  status : Nat
  output : Bytes := []
  diagnostics : Bytes := []
  files : FileSystem

/-- The exit status for wrong arguments. -/
def refused : Nat := 2

/-- The exit status of a run. -/
def statusOf (failure : Option Failure) : Nat := if failure.isSome then 1 else 0

/-- The name and version of the program. -/
def version : String := "gcc-module-cmi-builder 0.1.0"

/-- How the program is called. -/
def usage : String := "Usage: gcc-module-cmi-builder [OPTIONS]"

/-- Show the blocks of the input as outlines. -/
def dump (start : Start) : Result :=
  let (blocks, failure, _) := Wire.Reader.blocks { stream := { rest := start.input } }
  { status := statusOf failure
    diagnostics := blocks.flatMap fun block => Bytes.ofString (Wire.outline block ++ "\n")
    files := start.files }

/-- Serve the input. -/
def serve (launcher : Launcher) (settings : Settings) (start : Start) : Result :=
  let mapper : Mapper Bytes := ⟨settings, launcher.compiler start.environment⟩
  let connection : Connection Bytes :=
    { reader := { stream := { rest := start.input } }
      session := { workspace := { files := start.files, compilerState := [] } } }
  let (outcome, last) := connection.run mapper
  { status := match outcome with | .ok () => 0 | .error _ => 1
    output := last.output.written
    diagnostics := last.session.workspace.compilerState
    files := last.session.workspace.files }

/-- Run the program with what starts its children. -/
def runBy (launcher : Launcher) (start : Start) : Result :=
  match CommandLine.parse start.arguments start.environment with
  | .refuse => { status := refused, files := start.files }
  | .showVersion => { status := 0, output := Bytes.ofString (version ++ "\n"), files := start.files }
  | .showHelp => { status := 0, output := Bytes.ofString (usage ++ "\n"), files := start.files }
  | .work options =>
    if options.dumpBlocks then dump start
    else
      let settings := { options.settings with mapperCommand := Text.lossy start.name }
      match settings.check with
      | .ok () => serve launcher settings start
      | .error _ => { status := 1, files := start.files }

end ModuleMapper.Program
