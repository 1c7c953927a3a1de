import ModuleMapper.Child
import ModuleMapper.Host.Shell.Start

/-!
# The host — the programs that children run

  A program is named by a path when its name holds a slash. Other names are looked for on the search
  path of the child.
-/

namespace ModuleMapper.Host

open scoped Bytes

/-- The search path where no variable gives one. -/
def usualPath : Bytes := "/bin:/usr/bin"

/-- What is started for an invocation, or why nothing can be. -/
def prepare (files : FileSystem) (environment : List (Bytes × Bytes)) (invocation : Invocation) :
    Except SystemError Image :=
  let name := Bytes.ofString invocation.program
  let searched := (environment.lookup ("PATH" : Bytes)).getD usualPath
  let call : Image.Call :=
    { name
      arguments := invocation.arguments
      environment := invocation.bindings.map Child.assignment }
  Image.attemptAll (Image.ofPath files call) searched name

/-- Run a child to its end. The mapper stays where it is. -/
def run (environment : List (Bytes × Bytes)) (files : FileSystem) (image : Image) : Child.Ended :=
  let (ending, after) := Process.apart image.start { files, environment }
  { ending, printed := after.printed.toBytes, files := after.files }

/-- The programs of the host are started from its files. -/
def launcher : Launcher where
  launch environment invocation files :=
    (prepare files environment invocation).map (run environment files)

end ModuleMapper.Host
