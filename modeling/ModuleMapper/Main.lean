import ModuleMapper.Program

/-!
# The executable — arguments, variables and streams

  The program runs in a file system of its own, which holds the working directory and the directories
  above it. All that it decides is in `Program.run`.
-/

namespace ModuleMapper.Executable

/-- Read a stream to its end. -/
partial def readAll (stream : IO.FS.Stream) (taken : ByteArray) : IO ByteArray := do
  let more ← stream.read 8192
  if more.isEmpty then return taken else readAll stream (taken ++ more)

/-- The variables that give settings. -/
def settingVariables : IO (List (String × Bytes)) :=
  Setting.all.filterMapM fun setting => do
    let value ← IO.getEnv setting.variableName
    return value.map fun text => (setting.variableName, Bytes.ofString text)

/-- A file system with nothing but a working directory and the directories above it. -/
def bareFiles (directory : Path) (now : Timestamp) : FileSystem :=
  let top : FileSystem := { entries := [([], .directory now)], workingDir := [], now }
  { (top.makeDirectories directory).2 with
    workingDir := (FileSystem.steps directory).reverse }

/-- Run the program on its streams. -/
def start (arguments : List String) : IO UInt32 := do
  let environment ← settingVariables
  let input ← readAll (← IO.getStdin) .empty
  let directory ← IO.currentDir
  let program ← IO.appPath
  let result := Program.run
    { name := Bytes.ofString program.toString
      arguments := arguments.map Bytes.ofString
      environment
      input := input.toList
      files := bareFiles (Bytes.ofString directory.toString) ⟨0, 0⟩ }
  (← IO.getStdout).write ⟨result.output.toArray⟩
  (← IO.getStderr).write ⟨result.diagnostics.toArray⟩
  return result.status.toUInt32

end ModuleMapper.Executable

/-- The program. -/
def main (arguments : List String) : IO UInt32 := ModuleMapper.Executable.start arguments
