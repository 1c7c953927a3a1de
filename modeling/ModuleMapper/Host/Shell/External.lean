import ModuleMapper.Host.Image
import ModuleMapper.Host.Shell.Machine

/-!
# External programs — how a shell runs the programs of the system

  A program is named by a path, or found on the search path. It runs in a process of its own, with the
  variables that are handed over, and may take the place of the shell. How programs are run is given
  from outside.
-/

namespace ModuleMapper.Shell

open scoped Bytes
open Run

/-- How a program that cannot be started is reported, and the exit status. -/
def startError (name : Bytes) (cause : SystemError) : Bytes × Nat :=
  match cause with
  | .code 2 | .code 20 => (name ++ (": not found" : Bytes), 127)
  | .code 36 | .code 40 => (name ++ Bytes.ofString (": " ++ cause.text), 127)
  | _ => (name ++ Bytes.ofString (": " ++ cause.text), 126)

/-- Remember where a program has been found by its name. -/
def track (name : Bytes) (place : Nat) : Run Unit :=
  modify fun m =>
    let entry : Tracked := { name, place }
    if m.tracked.any fun old => old.name == name then
      { m with tracked := m.tracked.map fun old => if old.name == name then entry else old }
    else { m with tracked := m.tracked ++ [entry] }

/-- Forget where the program of a name has been found. -/
def untrack (name : Bytes) : Run Unit :=
  modify fun m => { m with tracked := m.tracked.filter fun entry => entry.name != name }

/-- The place of the program of a name on a search path. What is found on the usual search path of the
    shell is remembered. -/
def locate (searched? : Option Bytes) (name : Bytes) : Run (Except SystemError Nat) := do
  let usual := (← valueOf "PATH").getD []
  let searched := searched?.getD usual
  if searched != usual then return Image.find (← files) none searched name
  else
    let known? := (← get).tracked.find? fun entry => entry.name == name
    match known?.filter (!·.doubtful) with
    | some entry => return .ok entry.place
    | none => do
      let found := Image.find (← files) (known?.map Tracked.place) searched name
      match found with
      | .ok place => track name place
      | .error _ => untrack name
      return found

/-- The paths under which the program of a name may be started, each if those before it fail. -/
def findProgram (searched? : Option Bytes) (name : Bytes) : Run (Except SystemError (List Path)) := do
  if name.contains Byte.slash then return .ok [name]
  else
    match ← locate searched? name with
    | .error cause => return .error cause
    | .ok place => do
      let searched := searched?.getD ((← valueOf "PATH").getD [])
      return .ok ((Image.candidates searched name).drop place)

/-- The image of the first path that stands for one. Obstacles other than missing files are reported if
    none does. -/
def imageAmong (files : FileSystem) (call : Image.Call) :
    SystemError → List Path → Except SystemError Image
  | obstacle, [] => .error obstacle
  | obstacle, path :: others =>
    match Image.ofPathOrScript files call path with
    | .ok image => .ok image
    | .error .notFound | .error .notDirectory => imageAmong files call obstacle others
    | .error cause => imageAmong files call cause others

/-- How programs are run: as the image says, in a process of their own. -/
abbrev Runner := Image → Action Ending

/-- Run a program by one of some paths; the words are its name and its arguments. -/
def launch (runner : Runner) (paths : List Path) (words : List Bytes) :
    Run (Except SystemError Ending) := do
  let m ← get
  let environment := m.exported
  let handedOver := environment.map fun (name, value) => name ++ Byte.equals :: value
  let call : Image.Call :=
    { name := words.headD [], arguments := words.tail, environment := handedOver }
  match imageAmong m.process.files call .notFound paths with
  | .error cause => return .error cause
  | .ok image => do
    modify Machine.clearPlace
    let ignored := m.process.ignored ++ (m.traps.filter fun trap => trap.2 == []).map Prod.fst
    let ending ← act (Process.apart do
      modify fun p => { p with environment, ignored }
      runner image)
    return .ok ending

/-- Run a program, and go on when it has ended. If it is the last and the shell has nothing else to do at
    its end, it takes the place of the shell, so that they end alike. -/
def runProgram (runner : Runner) (isLast : Bool) (paths : List Path) (words : List Bytes) :
    Run Unit := do
  match ← launch runner paths words with
  | .ok ending => do
    match ending, isLast && (← get).traps.all fun trap => trap.2 == [] with
    | .killed signal, true => die signal
    | _, _ => do
      report ending
      setStatus ending.status
  | .error cause => do
    let (text, status) := startError (words.headD []) cause
    warn text
    setStatus status

/-- Replace the shell by a program. -/
def runExec (runner : Runner) (words : List Bytes) : Run Unit := do
  let name := words.headD []
  let searched := (← valueOf "PATH").getD []
  let paths := if name.contains Byte.slash then [name] else Image.candidates searched name
  let outcome ← launch runner paths words
  match outcome with
  | .ok (.killed signal) => die signal
  | .ok (.exited status) =>
    modify fun m => { m with status, traps := m.traps.filter fun trap => trap.1 != 0 }
  | .error cause => do
    let (text, status) := startError name cause
    let outer := (← get).speaker
    modify fun m => { m with speaker := some "exec" }
    warn text
    modify fun m => { m with speaker := outer, status }
  throw .exit

end ModuleMapper.Shell
