import ModuleMapper.Ending
import ModuleMapper.Workspace

/-!
# Children — carrying out invocations

  A child runs among the files of its mapper. It inherits the mapper's variables, and those that the
  invocation sets come first. It has no input, and what it prints, on either stream, goes to the
  mapper's diagnostics: the mapper's own output belongs to its client.

  What programs there are, and what they do, is up to the `Launcher`. It is told what the child sees: its
  variables, its program and arguments, and the files.
-/

namespace ModuleMapper

namespace Child

/-- A variable as it is handed over. -/
def assignment (entry : String × Bytes) : Bytes :=
  Bytes.ofString entry.1 ++ Byte.equals :: entry.2

/-- The byte strings that are handed over to a child. -/
def handedOver (invocation : Invocation) : List Bytes :=
  Bytes.ofString invocation.program :: invocation.arguments
    ++ invocation.bindings.map assignment

/-- The variables of a child, in order of their names. -/
def environment (inherited : List (String × Bytes)) (invocation : Invocation) :
    List (Bytes × Bytes) :=
  let own := invocation.bindings
  let others := inherited.filter fun entry => !own.any fun set => set.1 == entry.1
  ((own ++ others).map fun entry => (Bytes.ofString entry.1, entry.2)).mergeSort fun a b =>
    decide (a.1 ≤ b.1)

/-- A child that has ended. -/
structure Ended where
  ending : Ending
  /-- Has it left an image of its memory behind? -/
  dumped : Bool := false
  /-- What it printed. -/
  printed : Bytes := []
  files : FileSystem

/-- The end of a child in words. -/
def Ended.message (child : Ended) : String :=
  child.ending.message ++ if child.dumped then " (core dumped)" else ""

end Child

/-- What starts children and waits for their end. -/
structure Launcher where
  /-- Start a child with these variables, among these files; or say why it cannot be started. -/
  launch : List (Bytes × Bytes) → Invocation → FileSystem → Except SystemError Child.Ended

namespace Launcher

open Child

/-- Run the child of an invocation to its end. Nothing with a NUL byte in it can be handed over. -/
def run (launcher : Launcher) (inherited : List (String × Bytes)) (invocation : Invocation)
    (files : FileSystem) : Except SystemError Ended :=
  if (handedOver invocation).any (·.contains Byte.nul) then .error .nulInArgument
  else launcher.launch (environment inherited invocation) invocation files

/-- The compiler that runs every invocation as a child. It keeps what its children print. -/
def compiler (launcher : Launcher) (inherited : List (String × Bytes)) : Compiler Bytes where
  compile name invocation printed files :=
    match launcher.run inherited invocation files with
    | .error cause => (.error (.build name cause.message), printed, files)
    | .ok child =>
      let outcome : Except Failure Unit :=
        if child.ending = .exited 0 then .ok () else .error (.build name child.message)
      (outcome, printed ++ child.printed, child.files)

end Launcher

end ModuleMapper
