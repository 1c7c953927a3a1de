import ModuleMapper.FileSystem.Tree
import ModuleMapper.Host.Text.Decimal
import ModuleMapper.Host.Utility.Lines

/-!
# Utilities for values — printing arguments, variables and paths

  These utilities print what follows from their arguments and from the process they run in.
-/

namespace ModuleMapper.Utility

open scoped Bytes

/-! ## Arguments -/

/-- Are the letters of an argument options of `echo`? -/
def isEchoOption (argument : Bytes) : Bool :=
  argument.length > 1 && argument.head? == some Byte.dash
    && argument.tail.all fun b => Byte.isOneOf b "neE"

/-- The byte that a code in base eight stands for, and what follows; none if there is no such code. Up
    to three digits count, and a zero in front of them does not. -/
def octalCode? (code : Bytes) : Option (UInt8 × Bytes) :=
  let isLong := code.head? == some Byte.digitZero && code.tail.head?.any Byte.isOctal
  let start := if isLong then code.tail else code
  let most := if code.head? = some Byte.digitZero && !isLong then 1 else 3
  let digits := (start.take most).takeWhile Byte.isOctal
  if digits = [] then none
  else some ((Integer.ofDigits 8 digits).toUInt8, start.drop digits.length)

/-- What codes behind backslashes stand for, and whether output goes on. -/
def unescaped : Nat → Bytes → Bytes × Bool
  | 0, _ => ([], true)
  | _, [] => ([], true)
  | _, [b] => ([b], true)
  | fuel + 1, b :: code :: rest =>
    let put (bytes rest : Bytes) : Bytes × Bool :=
      let (others, goesOn) := unescaped fuel rest
      (bytes ++ others, goesOn)
    if b ≠ Byte.backslash then put [b] (code :: rest)
    else
      match octalCode? (code :: rest) with
      | some (byte, after) => put [byte] after
      | none =>
        match Byte.char code with
        | 'a' => put [Byte.alert] rest
        | 'b' => put [Byte.backspace] rest
        | 'c' => ([], false)
        | 'e' => put [Byte.escapeCode] rest
        | 'f' => put [Byte.formFeed] rest
        | 'n' => put [Byte.newline] rest
        | 'r' => put [Byte.carriageReturn] rest
        | 't' => put [Byte.tab] rest
        | 'v' => put [Byte.verticalTab] rest
        | '\\' => put [Byte.backslash] rest
        | 'x' =>
          let digits := (rest.take 2).takeWhile fun b => Integer.digitValue b < 16
          if digits = [] then put [b, code] rest
          else put [(Integer.ofDigits 16 digits).toUInt8] (rest.drop digits.length)
        | _ => put [b, code] rest

/-- Print the arguments. The variable `POSIXLY_CORRECT` asks for codes, and leaves options only to
    arguments that start with `-n`. -/
def echo (arguments : List Bytes) : Action Nat := do
  let isStrict ← isStrict
  let allowsOptions := !isStrict || arguments.head? == some ("-n" : Bytes)
  let options := if allowsOptions then arguments.takeWhile isEchoOption else []
  let letters := options.flatten
  let last := (letters.filter fun b => Byte.isOneOf b "eE").getLast?
  let line := [Byte.space].intercalate (arguments.drop options.length)
  let (shown, goesOn) :=
    if isStrict || last == some 'e'.toUInt8 then unescaped (line.length + 1) line else (line, true)
  let silent := letters.contains Byte.letterN
  emit (if goesOn && !silent then shown ++ [Byte.newline] else shown)

/-- A number with zeros between its sign and its digits, up to a width. -/
def zeroPadded (width : Nat) (number : Bytes) : Bytes :=
  let zeros := List.replicate (width - number.length) Byte.digitZero
  if number.head? = some Byte.dash then Byte.dash :: zeros ++ number.tail else zeros ++ number

/-- Print numbers from a first to a last one. -/
def putRange (arguments : Arguments) (first step last : Decimal) : Action Nat :=
  if step.units = 0 then
    refuse ("invalid Zero increment value: " ++ Text.Safe.literal step.toBytes)
  else
    let places := max first.places step.places
    let finest := max places last.places
    let start := first.scaled finest
    let move := step.scaled finest
    let way := if move > 0 then last.scaled finest - start else start - last.scaled finest
    let count := if way < 0 then 0 else way / move.natAbs + 1
    let values := (List.range count.toNat).map fun (n : Nat) =>
      (Decimal.mk (first.scaled places + n * step.scaled places) places).toBytes
    let width := values.foldl (fun most value => max most value.length) 0
    let values := if arguments.has 'w' then values.map (zeroPadded width) else values
    let between := (arguments.value? 's').getD [Byte.newline]
    if values = [] then return 0 else emit (between.intercalate values ++ [Byte.newline])

/-- Print numbers in order. -/
def seq (arguments : List Bytes) : Action Nat :=
  let known : Known :=
    { valued := "sf", flags := "w", inFront := true
      long := [("equal-width", 'w'), ("format", 'f'), ("separator", 's')] }
  let isNegative (argument : Bytes) : Bool :=
    match argument with
    | a :: b :: _ => a == Byte.dash && (Byte.isDigit b || b == Byte.dot)
    | _ => false
  let isOperand (argument : Bytes) : Bool := argument.head? != some Byte.dash || isNegative argument
  let arguments := match arguments.findIdx? isOperand with
    | some place =>
      if arguments[place]?.any isNegative then
        arguments.take place ++ ("--" : Bytes) :: arguments.drop place
      else arguments
    | none => arguments
  withOptions known arguments fun arguments =>
    if arguments.operands.length > 3 then
      refuse ("extra operand " ++ Text.Safe.literal ((arguments.operands[3]?).getD []))
    else
      match arguments.operands.find? fun operand => (Decimal.ofBytes? operand).isNone with
      | some operand => refuse ("invalid floating point argument: " ++ Text.Safe.literal operand)
      | none =>
        match arguments.operands.filterMap Decimal.ofBytes? with
        | [last] => putRange arguments ⟨1, 0⟩ ⟨1, 0⟩ last
        | [first, last] => putRange arguments first ⟨1, 0⟩ last
        | [first, step, last] => putRange arguments first step last
        | _ => refuse "missing operand"

/-! ## Paths -/

/-- A path without the slashes at its end. -/
def trimmed (path : Path) : Path :=
  let kept := (path.reverse.dropWhile (· == Byte.slash)).reverse
  if kept = [] && path ≠ [] then [Byte.slash] else kept

/-- The last name of a path, without an ending. -/
def baseName (path ending : Bytes) : Bytes :=
  let path := trimmed path
  let name := if path = [Byte.slash] then path
    else (path.reverse.takeWhile (· ≠ Byte.slash)).reverse
  if ending ≠ [] && ending.isSuffixOf name && name ≠ ending then
    name.take (name.length - ending.length)
  else name

/-- Print the last names of paths. -/
def basename (arguments : List Bytes) : Action Nat :=
  let known : Known :=
    { flags := "az", valued := "s", inFront := true
      long := [("multiple", 'a'), ("suffix", 's'), ("zero", 'z')] }
  withOptions known arguments fun arguments =>
    let last := if arguments.has 'z' then Byte.nul else Byte.newline
    let several := arguments.has 'a' || arguments.has 's'
    match arguments.operands with
    | [] => refuse "missing operand"
    | path :: others =>
      if several then
        let ending := (arguments.value? 's').getD []
        emit ((path :: others).flatMap fun path => baseName path ending ++ [last])
      else
        match others with
        | [] => emit (baseName path [] ++ [last])
        | [ending] => emit (baseName path ending ++ [last])
        | _ :: extra :: _ => refuse ("extra operand " ++ Text.Safe.literal extra)

/-- A path without its last name. -/
def directoryName (path : Path) : Path :=
  let path := trimmed path
  if path = [Byte.slash] then path
  else
    let above := (path.reverse.dropWhile (· ≠ Byte.slash)).reverse
    if above = [] then Path.here else trimmed above

/-- Print paths without their last names. -/
def dirname (arguments : List Bytes) : Action Nat :=
  withOptions { flags := "z", long := [("zero", 'z')] } arguments fun arguments =>
    let last := if arguments.has 'z' then Byte.nul else Byte.newline
    if arguments.operands = [] then refuse "missing operand"
    else emit (arguments.operands.flatMap fun path => directoryName path ++ [last])

/-- The variable `PWD`, if it leads to the working directory without a name that stands for a step. -/
def statedDirectory? : Action (Option Path) := do
  let process ← get
  return (process.environment.lookup ("PWD" : Bytes)).filter fun path =>
    let names := Bytes.splitAt Byte.slash path
    path.head? == some Byte.slash && !names.contains Path.here && !names.contains ".."
      && !process.files.adrift
      && Fixture.directory? process.files path == some process.files.workingDir

/-- Print the working directory. -/
def pwd (arguments : List Bytes) : Action Nat :=
  withOptions { flags := "LP", long := [("logical", 'L'), ("physical", 'P')] } arguments fun arguments => do
    if arguments.operands ≠ [] then complain "ignoring non-option arguments"
    let isLogical := (arguments.options.getLast?.map fun option => option.1 == 'L').getD (← isStrict)
    let stated? ← if isLogical then statedDirectory? else pure none
    match stated?.elim (← get).files.currentDir .ok with
    | .ok path => emit (path ++ [Byte.newline])
    | .error cause => do
      complain (Bytes.ofString
        ("couldn't find directory entry in '..' with matching i-node: " ++ cause.text))
      return 1

/-! ## Variables and the system -/

/-- Print variables, or the values of some. -/
def printenv (arguments : List Bytes) : Action Nat :=
  withOptions { flags := "0", inFront := true, long := [("null", '0')] } arguments (fun arguments => do
    let environment := (← get).environment
    let last := if arguments.has '0' then Byte.nul else Byte.newline
    if arguments.operands = [] then
      emit (environment.flatMap fun (name, value) => name ++ Byte.equals :: value ++ [last]) 0 2
    else
      let values := arguments.operands.map fun name =>
        if name.contains Byte.equals then none else environment.lookup name
      let shown := values.filterMap fun value => value.map (· ++ [last])
      emit shown.flatten (if values.all Option.isSome then 0 else 1) 2) 2

/-- Wait; no time passes. -/
def sleep (arguments : List Bytes) : Action Nat :=
  withOptions {} arguments fun arguments =>
    let isTime (operand : Bytes) : Bool :=
      let number := if operand.getLast?.any fun b => Byte.isOneOf b "smhd" then operand.dropLast
        else operand
      number ≠ [] && number.any Byte.isDigit && number.all fun b => Byte.isDigit b || b == Byte.dot
    match arguments.operands with
    | [] => refuse "missing operand"
    | operands =>
      match operands.filter fun operand => !isTime operand with
      | [] => return 0
      | wrong => do
        for operand in wrong do
          complain ("invalid time interval " ++ Text.Safe.literal operand)
        offerHelp
        return 1

/-- Print who runs the process. -/
def whoami (arguments : List Bytes) : Action Nat :=
  withOptions {} arguments fun arguments =>
    match arguments.operands with
    | [] => emit "root\n"
    | extra :: _ => refuse ("extra operand " ++ Text.Safe.literal extra)

/-- Print who runs the process, with numbers. -/
def id (arguments : List Bytes) : Action Nat :=
  let known : Known :=
    { flags := "agnruzGZ"
      long := [("context", 'Z'), ("group", 'g'), ("groups", 'G'), ("name", 'n'), ("real", 'r'),
               ("user", 'u'), ("zero", 'z')] }
  withOptions known arguments fun arguments => do
    let asks := arguments.options.any fun option => option.1 != 'a'
    let shown : Bytes := if !asks then "uid=0(root) gid=0(root) groups=0(root)\n"
      else if arguments.has 'n' then "root\n" else "0\n"
    let names := if arguments.operands = [] then [Bytes.ofString "root"] else arguments.operands
    forEach names fun name => do
      if name = ("root" : Bytes) ∨ name = ("0" : Bytes) then return (← emit shown) = 0
      else
        let reason : Bytes := if name = [] then ": No such file or directory" else ""
        complain (Text.Safe.literal name ++ ": no such user" ++ reason)
        return false

/-- Print the name of the system. -/
def uname (arguments : List Bytes) : Action Nat :=
  let known : Known :=
    { flags := "asnrvmpio"
      long := [("all", 'a'), ("kernel-name", 's'), ("nodename", 'n'), ("kernel-release", 'r'),
               ("kernel-version", 'v'), ("machine", 'm'), ("processor", 'p'),
               ("hardware-platform", 'i'), ("operating-system", 'o')] }
  withOptions known arguments fun arguments =>
    match arguments.operands with
    | [] => emit (if arguments.has 'o' then "GNU/Linux\n" else "Linux\n")
    | extra :: _ => refuse ("extra operand " ++ Text.Safe.literal extra)

end ModuleMapper.Utility
