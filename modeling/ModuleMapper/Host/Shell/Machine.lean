import ModuleMapper.Host.Process
import ModuleMapper.Host.Shell.Command
import ModuleMapper.Host.Text.Integer

/-!
# Shell machines — the state of a script that runs

  A shell has variables, functions, options and the arguments of its script. Some commands stop what is
  under way: they end the shell, leave a loop or return from a function. An error ends the shell too,
  unless the command that found it was one that may fail.

  Diagnostics name the script, the line, and the command of the shell that speaks.
-/

namespace ModuleMapper.Shell

open scoped Bytes

/-- A variable. It may be marked before it has a value. -/
structure Variable where
  name : Bytes
  value : Option Bytes := none
  /-- Is it handed to programs? -/
  exported : Bool := false
  readOnly : Bool := false
  deriving Repr, DecidableEq

/-- What a function or a command has changed for itself, as it was before. -/
structure Kept where
  bindings : List (Bytes × Option Variable) := []
  /-- The letters of the options. -/
  options : Option (List Char) := none

/-- A command in the background. By the time anybody waits for it, it has ended. -/
structure Job where
  /-- Its place among the jobs of the shell. -/
  place : Nat
  /-- The number of its process. -/
  process : Nat
  /-- How many processes it consists of. -/
  size : Nat
  ending : Ending
  waited : Bool := false
  deriving Repr, DecidableEq

/-- A program that has been found by its name. -/
structure Tracked where
  name : Bytes
  /-- The place of its directory on the search path. -/
  place : Nat
  /-- Is it to be looked for again, as the working directory has changed? -/
  doubtful : Bool := false
  deriving Repr, DecidableEq

/-- A shell. -/
structure Machine where
  process : Process
  /-- The name of the script. -/
  name : Bytes
  /-- The path of the working directory, as the shell has come there. -/
  place : Path := []
  arguments : List Bytes := []
  bindings : List Variable := []
  functions : List (Bytes × Command) := []
  /-- The letters of the options that are set. -/
  options : List Char := []
  /-- The exit status of the last command. -/
  status : Nat := 0
  /-- Is a command about to be shown? -/
  isTracing : Bool := false
  /-- The line of the command that is carried out. -/
  line : Nat := 1
  /-- The line that the reading of the script has come to. -/
  lineRead : Nat := 1
  /-- The command of the shell that speaks. -/
  speaker : Option Bytes := none
  /-- What is done on a signal; the number 0 stands for the end of the shell. -/
  traps : List (Nat × Bytes) := []
  /-- The signals that have come and have not been answered. -/
  signals : List Nat := []
  /-- The signal that has ended the shell. -/
  killer : Option Nat := none
  /-- Does the shell run for another one, under its number? -/
  isInner : Bool := false
  /-- Is the next command the last one, so that a program may take the place of the shell? -/
  isLast : Bool := false
  /-- The signals that this shell has sent to the one that it runs for. -/
  raised : List Nat := []
  aliases : List (Bytes × Bytes) := []
  /-- The documents of the script, by their numbers. -/
  documents : List (Nat × Term) := []
  nextDocument : Nat := 0
  /-- How many loops are under way. -/
  loops : Nat := 0
  /-- How many functions are under way. -/
  calls : Nat := 0
  /-- What the function under way has made its own. -/
  saved : Option Kept := none
  /-- The exit status of the last substitution in the command under way. -/
  substituted : Option Nat := none
  /-- The commands in the background, the last one first. -/
  jobs : List Job := []
  /-- The number of the last process in the background. -/
  lastProcess : Option Nat := none
  /-- How many letters of the current argument have been read as options. -/
  optionOffset : Nat := 0
  /-- The programs that have been found by their names, the first one first. -/
  tracked : List Tracked := []
  /-- The permissions that new files do not get. -/
  mask : Nat := 0o22

/-- What a shell does when the variable of a name has got another value: it reads options from a new
    place, or forgets where programs are. -/
def Machine.noticing (m : Machine) (name : Bytes) : Machine :=
  if name = ("OPTIND" : Bytes) then { m with optionOffset := 0 }
  else if name = ("PATH" : Bytes) then { m with tracked := [] }
  else m

/-- Why what is under way stops. -/
inductive Stop where
  /-- The shell ends. -/
  | exit
  /-- Something went wrong. -/
  | error
  /-- So many loops are left. -/
  | leave (loops : Nat)
  /-- So many loops but one are left, and that one goes on with its next round. -/
  | next (loops : Nat)
  /-- The function, or the file that is read, is left. -/
  | back
  deriving Repr, DecidableEq

/-- What a shell does. -/
abbrev Run := ExceptT Stop (StateM Machine)

namespace Run

/-- Do something as a process. -/
def act {α : Type} (action : Action α) : Run α :=
  modifyGet fun m =>
    let (result, process) := action m.process
    (result, { m with process })

/-- Change the process. -/
def modifyProcess (change : Process → Process) : Run Unit :=
  modify fun m => { m with process := change m.process }

/-- The files as they are now. -/
def files : Run FileSystem := do return (← get).process.files

/-- Set the exit status. -/
def setStatus (status : Nat) : Run Unit := modify fun m => { m with status }

/-- Is an option set? -/
def hasOption (letter : Char) : Run Bool := do return (← get).options.contains letter

/-! ## Stops -/

/-- Do something, and go on whatever stops it. -/
def settle (action : Run Unit) : Run (Option Stop) := fun m =>
  match action m with
  | (.ok (), m) => (.ok none, m)
  | (.error stop, m) => (.ok (some stop), m)

/-- Do something, and give what it gives or what stops it. -/
def attempt {α : Type} (action : Run α) : Run (Except Stop α) := fun m =>
  let (result, m) := action m
  (.ok result, m)

/-- Do something, and then change the shell, whatever stops it. -/
def afterwards {α : Type} (action : Run α) (change : Machine → Machine) : Run α := fun m =>
  let (result, m) := action m
  (result, change m)

/-! ## Diagnostics -/

/-- Say something on the descriptor for diagnostics. -/
def say (text : Bytes) : Run Unit := act (Process.say text)

/-- Say what is wrong, and where. -/
def warn (text : Bytes) : Run Unit := do
  let m ← get
  let speaker := match m.speaker with
    | some speaker => speaker ++ (": " : Bytes)
    | none => []
  say (m.name ++ Bytes.ofString (": " ++ toString m.line ++ ": ") ++ speaker ++ text)

/-- Stop because of an error. -/
def fail {α : Type} (text : Bytes) : Run α := do
  warn text
  setStatus 2
  throw .error

/-- Say how a process has ended that nobody has told to. -/
def report (ending : Ending) : Run Unit :=
  (ending.notice?).forM fun text => say (Bytes.ofString text)

/-- Write to a descriptor. -/
def write (descriptor : Nat) (bytes : Bytes) : Run (Except SystemError Unit) :=
  act (Process.write descriptor bytes)

/-! ## Signals -/

/-- A signal ends the shell. -/
def die {α : Type} (signal : Nat) : Run α := do
  modify fun m => { m with killer := some signal, traps := [] }
  throw .exit

/-- A signal comes to the shell. Without anything to be done on it, it ends the shell. -/
def receive (signal : Nat) : Run Unit := do
  let m ← get
  if signal = Signal.kill then die signal
  else if m.process.ignored.contains signal then pure ()
  else
    match m.traps.lookup signal with
    | some [] => pure ()
    | some _ => set { m with signals := m.signals ++ [signal] }
    | none => if Signal.harmless.contains signal then pure () else die signal

/-- Take the signals that shells which run for this one have sent to it. -/
def takeRaised : Run Unit := do
  let m ← get
  if !m.isInner then
    set { m with raised := [] }
    m.raised.forM receive

/-- Send a signal to the shell by its number, which all shells that run for it have too. -/
def raise (signal : Nat) : Run Unit := do
  modify fun m => { m with raised := m.raised ++ [signal] }
  takeRaised

/-! ## Variables -/

/-- A variable, if it is known. -/
def lookup? (name : Bytes) : Run (Option Variable) := do
  return (← get).bindings.find? fun v => v.name == name

/-- The value of a variable. -/
def valueOf (name : Bytes) : Run (Option Bytes) := do
  return (← lookup? name).bind Variable.value

/-- Put a variable in the place of the one with its name. -/
def putVariable (new : Variable) : Run Unit :=
  modify fun m =>
    if m.bindings.any fun v => v.name == new.name then
      { m with bindings := m.bindings.map fun v => if v.name == new.name then new else v }
    else { m with bindings := m.bindings ++ [new] }

/-- Give a variable a value. -/
def assign (name value : Bytes) : Run Unit := do
  if !isName name then fail (name ++ (": bad variable name" : Bytes))
  let old := (← lookup? name).getD { name }
  if old.readOnly then fail (name ++ (": is read only" : Bytes))
  let exported := old.exported || (← hasOption 'a')
  putVariable { old with value := some value, exported }
  modify fun m => m.noticing name

/-- Forget a variable. -/
def unset (name : Bytes) : Run Unit := do
  if ((← lookup? name).map Variable.readOnly).getD false then
    fail (name ++ (": is read only" : Bytes))
  modify fun m => { m with bindings := m.bindings.filter fun v => v.name != name }
  modify fun m => m.noticing name

/-- The field separators. -/
def separators : Run Bytes := do
  return (← valueOf "IFS").getD [Byte.space, Byte.tab, Byte.newline]

end Run

namespace Machine

/-! ## Jobs -/

/-- The first place for a job that is free, or that is taken by one that has been waited for. -/
def freePlace (m : Machine) : Nat :=
  let isFree (place : Nat) : Bool := !m.jobs.any fun job => job.place == place && !job.waited
  ((List.range' 1 (m.jobs.length + 1)).find? isFree).getD (m.jobs.length + 1)

/-- A new process takes the first free place; the job that was there is forgotten. -/
def clearPlace (m : Machine) : Machine :=
  { m with jobs := m.jobs.filter fun job => job.place != m.freePlace }

/-- Keep how a command in the background has ended. -/
def addJob (m : Machine) (number size : Nat) (ending : Ending) : Machine :=
  let place := m.freePlace
  let job : Job := { place, process := number, size, ending }
  { m.clearPlace with jobs := job :: m.clearPlace.jobs, lastProcess := some number }

/-! ## Variables -/

/-- What tells names apart in a table: the sum of the bytes, where the first one counts much more. -/
def sumOf (name : Bytes) : Nat :=
  name.foldl (fun sum b => sum + b.toNat) (16 * (name.head?.elim 0 UInt8.toNat))

/-- Names are listed by the rows of a table, and in the order in which they came to be within a row. -/
def inRows {α : Type} (rows : Nat) (name : α → Bytes) (entries : List α) : List α :=
  entries.mergeSort fun a b => decide (sumOf (name a) % rows ≤ sumOf (name b) % rows)

/-- The variables that are handed to programs. -/
def exported (m : Machine) : List (Bytes × Bytes) :=
  let shown := m.bindings.filterMap fun v =>
    if v.exported then v.value.map fun value => (v.name, value) else none
  inRows 39 Prod.fst shown

/-- The variables that every shell has. -/
def ownVariables : List (Bytes × Bytes) :=
  [("IFS", [Byte.space, Byte.tab, Byte.newline]),
   ("PATH", "/usr/local/sbin:/usr/local/bin:/usr/sbin:/usr/bin:/sbin:/bin"),
   ("PS1", "# "), ("PS2", "> "), ("PS4", "+ "), ("OPTIND", "1"), ("PPID", "1")]

/-- The names of variables whose values do not come from the environment. -/
def fixedNames : List Bytes := ["IFS", "OPTIND", "PPID"]

/-- The path of the working directory for a shell that starts. A path that it is given is taken over if
    it leads there. -/
def startingPlace (files : FileSystem) (given? : Option Path) : Path :=
  let actual := match files.currentDir with
    | .ok path => path
    | .error _ => []
  let leadsHere (path : Path) : Bool :=
    path.isAbsolute && !files.adrift && Fixture.directory? files path == some files.workingDir
  (given?.filter leadsHere).getD actual

/-- A shell in a process, with the variables of its environment and its own. -/
def start (process : Process) (name : Bytes) (arguments : List Bytes) : Machine :=
  let inherited := process.environment.filter fun entry => isName entry.1
  let own := ownVariables.filterMap fun (name, value) =>
    if inherited.any fun entry => entry.1 == name then none
    else some { name, value := some value : Variable }
  let given := inherited.map fun (name, value) =>
    let value := if fixedNames.contains name then (ownVariables.lookup name).getD value else value
    { name, value := some value, exported := true : Variable }
  let given := given.filter fun v => v.name != ("PWD" : Bytes)
  let place := startingPlace process.files (inherited.lookup ("PWD" : Bytes))
  let here : Variable := { name := "PWD", value := some place, exported := true }
  { process, name, arguments, place, bindings := own ++ given ++ [here] }

end Machine

end ModuleMapper.Shell
