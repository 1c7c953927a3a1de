import ModuleMapper.Host.Shell.Builtin.Table

/-!
# Simple commands — assignments, words and redirections

  A simple command is expanded, its descriptors are redirected, its assignments are made, and then it
  is found: special builtins first, then functions, other builtins, and programs.
-/

namespace ModuleMapper.Shell

open scoped Bytes
open Run

variable (evaluator : Evaluator)

/-! ## Functions -/

/-- Take back what a function or a command has made its own. -/
def restored (kept : Kept) (m : Machine) : Machine :=
  kept.bindings.foldl
    (fun m (name, old) =>
      let m := if name = ("PATH" : Bytes) then m.noticing name else m
      let others := m.bindings.filter fun v => v.name != name
      match old with
      | none => { m with bindings := others }
      | some old =>
        if m.bindings.any fun v => v.name == name then
          { m with bindings := m.bindings.map fun v => if v.name == name then old else v }
        else { m with bindings := others ++ [old] })
    { m with options := kept.options.getD m.options }

/-- How many functions may be under way. -/
def maxCalls : Nat := 1000

/-- Run a function. -/
def runFunction (tested : Bool) (body : Command) (arguments : List Bytes) : Run Unit := do
  let before ← get
  if before.calls ≥ maxCalls then
    fail (Bytes.ofString
      ("Maximum function recursion depth (" ++ toString maxCalls ++ ") reached"))
  set { before with arguments, loops := 0, optionOffset := 0, calls := before.calls + 1 }
  let back (m : Machine) : Machine :=
    { m with
      arguments := before.arguments, loops := before.loops, optionOffset := before.optionOffset
      calls := before.calls }
  afterwards (do
    match ← settle (evaluator.command tested body) with
    | none | some .back => pure ()
    | some stop => throw stop) back

/-! ## What the words stand for -/

/-- The name of the builtin that looks at the words behind it. -/
def commandName : Bytes := "command"

/-- The options of `command`. -/
def commandOptions : String := "pvV"

/-- What `command` asks for. -/
inductive Request where
  /-- A program or builtin, but no function; possibly on the usual search path. -/
  | run (usualPath : Bool) (words : List Bytes)
  | describe (usualPath verbose : Bool) (names : List Bytes)

/-- Read the arguments of `command`; none if they are wrong. -/
def Request.ofArguments? (arguments : List Bytes) : Option Request :=
  match Builtin.splitOptions commandOptions arguments with
  | .error _ => none
  | .ok (letters, operands) =>
    if letters.contains 'v' || letters.contains 'V' then
      some (.describe (letters.contains 'p') (letters.getLast? = some 'V') operands)
    else some (.run (letters.contains 'p') operands)

/-- The usual search path. -/
def usualPath : Bytes := "/usr/local/sbin:/usr/local/bin:/usr/sbin:/usr/bin:/sbin:/bin"

/-- What a command turns out to be. -/
inductive Target where
  /-- Assignments and redirections only. -/
  | nothing
  | builtin (name : Bytes) (command : BuiltinCommand) (arguments : List Bytes)
  | function (body : Command) (arguments : List Bytes)
  | exec (words : List Bytes)
  | program (searched : Option Bytes) (words : List Bytes)

/-- Is an error in the target the end of the shell? -/
def Target.isSpecial : Target → Bool
  | .builtin _ command _ => command.special
  | .exec _ => true
  | _ => false

/-- Are assignments in front of the target handed to programs? -/
def Target.exportsAssignments : Target → Bool
  | .nothing | .exec [] => false
  | .builtin _ command _ => !command.special
  | _ => true

/-- Do assignments in front of the target outlive it? -/
def Target.keepsAssignments : Target → Bool
  | .nothing => true
  | target => target.isSpecial

/-- Find out what the words of a command are. -/
def targetOf (words : List Bytes) : Run Target := do
  match words with
  | [] => return .nothing
  | name :: arguments => do
    if name = ("exec" : Bytes) then return .exec arguments
    else
      match builtin? evaluator name, (← get).functions.lookup name with
      | some command, none => return .builtin name command arguments
      | some command, some body =>
        if command.special then return .builtin name command arguments
        else return .function body arguments
      | none, some body => return .function body arguments
      | none, none => return .program none words

/-- Find out what the words behind `command` are, which may stand behind itself. Errors in it do not end
    the shell. The first number bounds how often it is looked at. -/
def commandTarget (searched : Option Bytes) : Nat → List Bytes → Run Target
  | 0, _ => return .nothing
  | fuel + 1, arguments =>
    match Request.ofArguments? arguments with
    | none =>
      let run (_ : Bool) (arguments : List Bytes) : Run Nat := do
        let _ ← Builtin.options commandOptions arguments
        return 0
      return .builtin "command" { run } arguments
    | some (.describe usual verbose names) =>
      let run (_ : Bool) (_ : List Bytes) : Run Nat :=
        Builtin.describeOne (if usual then some usualPath else none) verbose names
      return .builtin "command" { run } []
    | some (.run usual words) =>
      let searched := if usual then some usualPath else searched
      match words with
      | [] => return .nothing
      | name :: arguments =>
        if name = commandName then commandTarget searched fuel arguments
        else if name = ("exec" : Bytes) then return .exec arguments
        else
          match builtin? evaluator name with
          | some command => return .builtin name { command with special := false } arguments
          | none => return .program searched words

/-! ## Words and assignments -/

/-- Are the words of a command expanded like assignments? -/
def assignsArguments (words : List Bytes) : Bool :=
  match words with
  | [name] => ((builtin? evaluator name).map BuiltinCommand.assigns).getD false
  | _ => false

/-- Expand the words of a command, from the first one that has fields on. -/
def expandWords : List Bytes → List Term → Run (List Bytes)
  | words, [] => return words
  | words, term :: others => do
    let more ←
      match Reading.assignment? term, assignsArguments evaluator (words.take 1) with
      | some (.set name value), true => do
        pure [name ++ Byte.equals :: (← Expansion.assignedValue evaluator.capture value)]
      | _, _ => Expansion.fields evaluator.capture term
    expandWords (words ++ more) others

/-- Make assignments, in order. They may have to be handed to programs. -/
def makeAssignments (exported : Bool) : List Assignment → Run (List (Bytes × Bytes))
  | [] => return []
  | .set name term :: others => do
    let value ← Expansion.assignedValue evaluator.capture term
    assign name value
    if exported then
      modify fun m =>
        { m with bindings := m.bindings.map fun v =>
            if v.name == name then { v with exported := true } else v }
    return (name, value) :: (← makeAssignments exported others)

/-- What stands in front of a command that is shown, where values are put in as in a document. A text in
    which that fails stands for itself. -/
def traceFront : Run Bytes := do
  let text := (← valueOf "PS4").getD []
  match Reading.alone.run (.ofBytes text) with
  | .error misformed => do
    let line := (← get).line
    modify fun m => { m with line := misformed.line }
    warn (Bytes.ofString ("Syntax error: " ++ misformed.text))
    modify fun m => { m with line }
    return text
  | .ok (term, _) => do
    modify fun m => { m with isTracing := true }
    let outcome ← afterwards (attempt (Expansion.document evaluator.capture term))
      fun m => { m with isTracing := false }
    match outcome with
    | .ok front => return front
    | .error .error => return text
    | .error stop => throw stop

/-- Show a command before it is carried out. -/
def trace (descriptors : List (Nat × Nat)) (assigned : List (Bytes × Bytes)) (words : List Bytes) :
    Run Unit := do
  if (← hasOption 'x') && !(← get).isTracing then
    let front ← traceFront evaluator
    let shown := assigned.map (fun (name, value) => name ++ Byte.equals :: value) ++ words
    let line := front ++ [Byte.space].intercalate shown
    let inside := (← get).process.descriptors
    modifyProcess fun p => { p with descriptors }
    say line
    modifyProcess fun p => { p with descriptors := inside }

/-! ## Running -/

/-- Run a builtin. An error ends the shell only if the builtin is special. -/
def runBuiltin (tested : Bool) (name : Bytes) (command : BuiltinCommand) (arguments : List Bytes) :
    Run Unit := do
  let outer := (← get).speaker
  modify fun m => { m with speaker := some name }
  let action : Run Unit := do
    let status ← command.run tested arguments
    setStatus status
  let outcome ← afterwards (settle action) fun m => { m with speaker := outer }
  match outcome with
  | none => pure ()
  | some .error => if command.special then throw .error
  | some stop => throw stop

/-- Carry out what a command turned out to be. -/
def runTarget (runner : Runner) (isLast tested : Bool) : Target → Run Unit
  | .nothing => do
    setStatus ((← get).substituted.getD 0)
  | .builtin name command arguments => runBuiltin tested name command arguments
  | .function body arguments => runFunction evaluator tested body arguments
  | .exec [] => setStatus 0
  | .exec words => runExec runner words
  | .program searched words => do
    let name := words.headD []
    match ← findProgram searched name with
    | .error cause => do
      warn (startError name cause).1
      setStatus 127
    | .ok paths => runProgram runner isLast paths words

/-- Carry out a simple command. -/
def simple (runner : Runner) (isLast tested : Bool) (line : Nat) (assignments : List Assignment)
    (terms : List Term) (redirections : List Redirection) : Run Unit := do
  modify fun m => { m with line, substituted := none }
  let words ← expandWords evaluator [] terms
  let target ←
    if words.head? = some commandName && ((← get).functions.lookup commandName).isNone then
      commandTarget evaluator none words.length words.tail
    else targetOf evaluator words
  let expanded ← redirections.mapM (expandRedirection evaluator)
  let before ← get
  let descriptors := before.process.descriptors
  let lasts := match target with
    | .exec [] => true
    | _ => false
  let body : Run Unit := do
    if !(← redirectAll evaluator expanded) then
      setStatus 2
      if target.isSpecial then throw .error
    else
      let outlive := target.keepsAssignments
      let names := assignments.map fun assignment =>
        match assignment with
        | .set name _ => name
      let kept : Kept :=
        { bindings := names.map fun name =>
            (name, before.bindings.find? fun v => v.name == name) }
      let isFunction := match target with
        | .function _ _ => true
        | _ => false
      let inside : Run Unit := do
        if isFunction then modify fun m => { m with saved := some {} }
        let assigned ← makeAssignments evaluator target.exportsAssignments assignments
        trace evaluator descriptors assigned words
        runTarget evaluator runner isLast tested target
      afterwards inside fun m =>
        let m := if isFunction then
            { restored (m.saved.getD {}) m with saved := before.saved }
          else m
        if outlive then m else restored kept m
  afterwards body fun m => if lasts then m else { m with process.descriptors := descriptors }

end ModuleMapper.Shell
