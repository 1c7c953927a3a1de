import ModuleMapper.Host.Shell.Grammar
import ModuleMapper.Host.Shell.Machine

/-!
# Shell sessions — scripts from their first line to their end

  A script is read and carried out line by line, so that a line that is misformed stops it only when
  it is reached. When a shell ends, what its traps hold for that is done last.

  A shell starts others for pipelines and substitutions. They begin as copies of it; only what all
  processes share comes back. How single commands are carried out is given from outside.
-/

namespace ModuleMapper.Shell

open scoped Bytes

/-- How commands are carried out. Where a command is tested, its failure does not end the shell. -/
structure Evaluator where
  command : (tested : Bool) → Command → Run Unit

namespace Evaluator

variable (evaluator : Evaluator)

/-- Carry out commands in order. -/
def script (tested : Bool) (commands : Script) : Run Unit :=
  commands.forM (evaluator.command tested)

/-- Carry out a command behind which the shell ends. -/
def last (tested : Bool) (command : Command) : Run Unit := do
  modify fun m => { m with isLast := true }
  evaluator.command tested command

/-- Carry out commands in order, behind which the shell ends. -/
def lastScript (tested : Bool) : Script → Run Unit
  | [] => pure ()
  | [command] => evaluator.last tested command
  | command :: others => do
    evaluator.command tested command
    lastScript tested others

/-! ## Lines -/

/-- Show the text of a script as it is read. -/
def showText (before after : Source) : Run Unit := do
  if ← Run.hasOption 'v' then
    let read := before.rest.take (before.rest.length - after.rest.length)
    let _ ← Run.write 2 read

/-- Carry out the lines of a script, which may be shown as they are read. The result says whether there
    were commands. -/
def lines (tested shows : Bool) : Nat → Bool → Source → Run Bool
  | 0, ran, _ => return ran
  | fuel + 1, ran, source => do
    let m ← get
    let start := { source with
      documents := [], nextDocument := m.nextDocument, aliases := m.aliases }
    match Reading.line.run start with
    | .error misformed => do
      modify fun m => { m with line := misformed.line }
      Run.fail (Bytes.ofString ("Syntax error: " ++ misformed.text))
    | .ok (found, after) => do
      if shows then showText source after
      match found with
      | none => return ran
      | some commands => do
        modify fun m =>
          { m with
            documents := m.documents ++ after.documents, nextDocument := after.nextDocument
            lineRead := after.line }
        evaluator.script tested commands
        lines tested shows fuel (ran || !commands.isEmpty) after

/-- Carry out a text, which may be shown as it is read; without commands it succeeds. -/
def text (tested : Bool) (bytes : Bytes) (shows : Bool := false) : Run Unit := do
  let outside := (← get).lineRead
  Run.afterwards (do
    if !(← evaluator.lines tested shows (bytes.length + 2) false (.ofBytes bytes)) then
      Run.setStatus 0)
    fun m => { m with lineRead := outside }

/-! ## Ends -/

/-- Do what is to be done at the end of the shell. -/
def atEnd : Run Unit := do
  let m ← get
  match m.traps.lookup 0 with
  | none => pure ()
  | some action => do
    set { m with traps := m.traps.filter fun trap => trap.1 != 0 }
    match ← Run.settle (evaluator.text true action) with
    | some .exit | some .error => pure ()
    | _ => Run.setStatus m.status

/-- Run a shell to its end; with its ending, and as it was then. Of its exit status a byte is kept. -/
def conclude (m : Machine) (action : Run Unit) : Ending × Machine :=
  let ((), last) := go m
  (last.killer.elim (.exited (last.status % 256)) .killed, last)
where
  go : StateM Machine Unit := do
    let _ ← Run.settle action
    let _ ← (evaluator.atEnd).run
    pure ()

/-- Run something in a shell of its own; with its ending. -/
def apart (action : Run Unit) : Run Ending := fun m =>
  let inside := { m with
    traps := m.traps.filter fun trap => trap.2 == [], jobs := [], isInner := true, isLast := false
    raised := [] }
  let (ending, last) := evaluator.conclude inside action
  (.ok ending, { m.clearPlace with
    process := Process.resume m.process last.process, raised := m.raised ++ last.raised })

/-- Wait for something that is run in a shell of its own; with its exit status. -/
def await (action : Run Unit) : Run Nat := do
  let ending ← evaluator.apart action
  Run.takeRaised
  Run.report ending
  return ending.status

/-! ## Substitutions -/

/-- The output of commands. -/
def capture (commands : Script) : Run Bytes := do
  let number ← modifyGet fun m =>
    let (number, process) := m.process.addChannel (.pipe {})
    (number, { m with process })
  let status ← evaluator.await do
    Run.modifyProcess fun p => p.attach 1 number
    evaluator.lastScript false commands
  modify fun m => { m with substituted := some status }
  match (← get).process.channels[number]? with
  | some (.pipe output) => return output.toBytes
  | _ => return []

end Evaluator

end ModuleMapper.Shell
