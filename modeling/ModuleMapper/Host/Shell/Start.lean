import ModuleMapper.Host.Environment
import ModuleMapper.Host.Shell.Execution

/-!
# Starting shells — programs that run other programs

  A shell takes its script from a file, from an argument or from its input. It is itself a program of
  the system, and so is the one that starts others with other variables. Both are bounded in how deep
  programs and commands may stand inside of each other.
-/

namespace ModuleMapper

open scoped Bytes

namespace Shell

variable (evaluator : Evaluator)

/-! ## The shell -/

/-- What a shell is told to do. -/
structure Orders where
  /-- Is the script an argument? -/
  inline : Bool := false
  operands : List Bytes := []

/-- Read the options of a shell. -/
def readOrders : List Bytes → Orders → Run Orders
  | [], orders => return orders
  | argument :: others, orders => do
    match argument with
    | [] => return { orders with operands := argument :: others }
    | sign :: letters =>
      let on := sign == Byte.dash
      if !on && sign != Byte.plus then return { orders with operands := argument :: others }
      else if on && (letters = [] || letters = [Byte.dash]) then
        return { orders with operands := others }
      else
        let inline := on && letters.contains 'c'.toUInt8
        let named := letters.contains 'o'.toUInt8
        for b in letters do
          if b = 'o'.toUInt8 then
            match others with
            | name :: _ => Builtin.setNamed name on
            | [] => Builtin.listOptions on
          else if b != 'c'.toUInt8 && b != 'l'.toUInt8 then Builtin.setLetter b on
        let orders := { orders with inline := orders.inline || inline }
        readOrders (if named then others.drop 1 else others) orders
termination_by list => list.length
decreasing_by
  simp only [List.length_cons]
  split
  · rw [List.length_drop]
    omega
  · omega

/-- Carry out the script in a file. -/
def runFile (path : Path) : Run Unit := do
  let p := (← get).process
  match p.openFile path .read with
  | .error cause => Run.fail (openError .read path cause)
  | .ok _ => do
    let content := (← Run.act (Process.readFile path)).toOption.getD []
    modify fun m => { m with name := path, line := 1 }
    evaluator.text false content true

/-- The place of the next option has to be a number, if it comes from outside. -/
def checkVariables : Run Unit := do
  match (← get).process.environment.lookup ("OPTIND" : Bytes) with
  | none => pure ()
  | some given => do
    let name := (← get).name
    modify fun m => { m with name := "sh" }
    let _ ← Builtin.number given
    modify fun m => { m with name }

/-- Carry out what a shell is told to. -/
def obey (arguments : List Bytes) : Run Unit := do
  modify fun m => { m with line := 0 }
  checkVariables
  let orders ← readOrders arguments {}
  match orders.inline, orders.operands with
  | true, [] => Run.fail "-c requires an argument"
  | true, script :: others => do
    let name := (← get).name
    modify fun m => { m with name := others.headD name, arguments := others.drop 1, line := 1 }
    evaluator.text false script
  | false, operands => do
    let fromInput := operands = [] || (← Run.hasOption 's')
    if fromInput then
      Builtin.setOption 's' true
      modify fun m => { m with arguments := operands, line := 1 }
      let script := match ← Run.act (Process.readAll 0) with
        | .ok script => script
        | .error _ => []
      evaluator.text false script true
    else
      modify fun m => { m with arguments := operands.drop 1 }
      runFile evaluator (operands.headD [])

/-- Run a shell by its name and arguments. -/
def run (name : Bytes) (arguments : List Bytes) : Action Ending := fun process =>
  let (ending, last) := evaluator.conclude (Machine.start process name []) (obey evaluator arguments)
  (ending, last.process)

end Shell

/-! ## Programs -/

namespace Image

/-- Run an image, with shells that carry out commands by the given evaluator. -/
def run (evaluator : Shell.Evaluator) : Nat → Image → Action Ending
  | 0, _ => return .exited 126
  | depth + 1, image =>
    match image.tool with
    | .utility run => do
      modify fun p => { p with program := image.name }
      return .exited (← run image.arguments)
    | .shell => Shell.run evaluator image.name image.arguments
    | .env => do
      modify fun p => { p with program := image.name }
      Environment.run (run evaluator depth) image.arguments

end Image

namespace Shell.Evaluator

/-- How deep programs may start programs that do nothing but that. -/
def maxStarts : Nat := 100

/-- The evaluator for so many levels of commands inside of each other. A shell that goes deeper ends by a
    signal. -/
def ofDepth : Nat → Evaluator
  | 0 => ⟨fun _ _ => Run.die Signal.segmentation⟩
  | depth + 1 =>
    ⟨fun tested command => commandOrEnd (ofDepth depth) (Image.run (ofDepth depth) maxStarts) tested command⟩

/-- How deep commands may stand inside of each other. -/
def maxDepth : Nat := 20000

end Shell.Evaluator

/-- Run an image. -/
def Image.start (image : Image) : Action Ending :=
  image.run (Shell.Evaluator.ofDepth Shell.Evaluator.maxDepth) Shell.Evaluator.maxStarts

end ModuleMapper
