import ModuleMapper.Host.Shell.Simple

/-!
# Execution — what commands do

  A command that holds others is carried out by carrying out those. Each command of a pipeline runs in
  a shell of its own, on what the one before has printed. How commands inside of others are carried out
  is an evaluator; the one at the end is bounded in depth.
-/

namespace ModuleMapper.Shell

open scoped Bytes
open Run

variable (evaluator : Evaluator)

/-! ## Loops and choices -/

/-- Carry out one round of a loop. The result says whether the loop goes on. -/
def round (action : Run Unit) : Run Bool := do
  match ← settle action with
  | none => return true
  | some (.leave count) => if count ≤ 1 then return false else throw (.leave (count - 1))
  | some (.next count) => if count ≤ 1 then return true else throw (.next (count - 1))
  | some stop => throw stop

/-- How often a loop may be repeated. -/
def maxRounds : Nat := 1000000

/-- Repeat commands as long as a test succeeds, or until it does. The status is that of the last round,
    given from the one before. -/
def repeatWhile (tested awaited : Bool) (test body : Script) : Nat → Nat → Run Unit
  | 0, status => setStatus status
  | fuel + 1, status => do
    let goesOn ← round (evaluator.script true test)
    let failed := (← get).status != 0
    if !goesOn || failed != awaited then setStatus status
    else
      let goesOn ← round (evaluator.script tested body)
      let status := (← get).status
      if goesOn then repeatWhile tested awaited test body fuel status else setStatus status

/-- Repeat commands for each of some values. -/
def repeatFor (tested : Bool) (name : Bytes) (body : Script) : List Bytes → Run Unit
  | [] => pure ()
  | value :: others => do
    assign name value
    if ← round (evaluator.script tested body) then
      repeatFor tested name body others

/-- Do something inside of one more loop. -/
def insideLoop (action : Run Unit) : Run Unit := do
  let outer := (← get).loops
  modify fun m => { m with loops := outer + 1 }
  afterwards action fun m => { m with loops := outer }

/-- Carry out the first arm that fits. -/
def choose (tested : Bool) (value : Bytes) : List Arm → Run Unit
  | [] => setStatus 0
  | .case patterns body :: others => do
    let mut fits := false
    for pattern in patterns do
      if !fits then
        let pattern ← Expansion.pattern evaluator.capture pattern
        fits := pattern.isMatch value
    if fits then
      if body.isEmpty then setStatus 0 else evaluator.script tested body
    else choose tested value others

/-! ## Pipelines -/

/-- Carry out the commands of a pipeline, each on what the one before has printed; with their
    endings. -/
def pipe (tested : Bool) : Option Nat → Script → Run (List Ending)
  | _, [] => return []
  | input, command :: others => do
    let output ←
      if others.isEmpty then pure none
      else
        modifyGet fun m =>
          let (number, process) := m.process.addChannel (.pipe {})
          (some number, { m with process })
    let ending ← evaluator.apart do
      match input with
      | some number => modifyProcess fun p => p.attach 0 number
      | none => pure ()
      match output with
      | some number => modifyProcess fun p => p.attach 1 number
      | none => pure ()
      evaluator.last tested command
    return ending :: (← pipe tested output others)

/-! ## Commands -/

/-- Does the failure of a command end a shell that is to end on failure? -/
def endsOnFailure : Command → Bool
  | .simple .. | .pipeline _ | .subshell _ => true
  | .redirected _ (.subshell _) _ => true
  | _ => false

/-- Carry out a command, which may be the last one. -/
def carryOut (runner : Runner) (isLast tested : Bool) : Command → Run Unit
  | .simple line assignments terms redirections =>
    simple evaluator runner isLast tested line assignments terms redirections
  | .pipeline commands => do
    let endings ← pipe evaluator tested none commands
    takeRaised
    endings.forM report
    setStatus (endings.getLast?.elim 0 Ending.status)
  | .negation command => do
    evaluator.command true command
    let status := (← get).status
    setStatus (if status = 0 then 1 else 0)
  | .both first second => do
    evaluator.command true first
    if (← get).status = 0 then evaluator.command tested second
  | .either first second => do
    evaluator.command true first
    if (← get).status ≠ 0 then evaluator.command tested second
  | .background command => do
    let ending ← evaluator.apart do
      modifyProcess fun p =>
        let (number, p) := p.addChannel .null
        p.attach 0 number
      evaluator.last tested command
    let size := match command with
      | .pipeline commands => commands.length
      | _ => 1
    modify fun m => m.addJob (m.lastProcess.getD Expansion.processNumber + size) size ending
    takeRaised
    setStatus 0
  | .group body => evaluator.script tested body
  | .subshell body => do
    let status ← evaluator.await (evaluator.lastScript tested body)
    setStatus status
  | .redirected line (.subshell body) redirections => do
    modify fun m => { m with line }
    let expanded ← redirections.mapM (expandRedirection evaluator)
    let status ← evaluator.await do
      if ← redirectAll evaluator expanded then evaluator.lastScript tested body else setStatus 2
    setStatus status
  | .redirected line command redirections => do
    modify fun m => { m with line }
    withRedirections evaluator redirections (evaluator.command tested command)
  | .conditional test success failure => do
    evaluator.script true test
    if (← get).status = 0 then evaluator.script tested success
    else if failure.isEmpty then setStatus 0
    else evaluator.script tested failure
  | .loop awaited test body =>
    insideLoop (repeatWhile evaluator tested awaited test body maxRounds 0)
  | .iteration line name terms body => do
    modify fun m => { m with line }
    match ← Expansion.allFields evaluator.capture terms with
    | [] => setStatus 0
    | values => insideLoop (repeatFor evaluator tested name body values)
  | .choice line term arms => do
    modify fun m => { m with line }
    let value ← Expansion.value evaluator.capture term
    choose evaluator tested value arms
  | .definition name body => do
    modify fun m =>
      { m with functions := (name, body) :: m.functions.filter fun entry => entry.1 != name }
    setStatus 0

/-- Do what is to be done on the signals that have come. -/
def answerSignals : Run Unit := do
  let m ← get
  if m.signals ≠ [] then
    set { m with signals := [] }
    for number in m.signals do
      match m.traps.lookup number with
      | some action => do
        evaluator.text false action
        setStatus m.status
      | none => pure ()

/-- Carry out a command, unless commands are only read. Its failure may end the shell. -/
def commandOrEnd (runner : Runner) (tested : Bool) (command : Command) : Run Unit := do
  let isLast ← modifyGet fun m => (m.isLast, { m with isLast := false })
  if ← hasOption 'n' then setStatus 0 else carryOut evaluator runner isLast tested command
  answerSignals evaluator
  let m ← get
  if m.status ≠ 0 && !tested && m.options.contains 'e' && endsOnFailure command then throw .exit

end ModuleMapper.Shell
