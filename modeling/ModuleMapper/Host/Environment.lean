import ModuleMapper.Host.Image
import ModuleMapper.Host.Text.Safe

/-!
# Environments — starting programs with other variables

  The program `env` changes the variables, and perhaps the working directory, and then starts another
  program, or shows the variables if it is given none. One of its options holds several arguments in one,
  with quotes and codes of its own, because the first line of a script can hold one argument only.
-/

namespace ModuleMapper.Environment

open scoped Bytes

/-! ## Splitting one argument into several -/

/-- How far a text has been split. -/
structure Splitting where
  /-- The arguments so far, the last one first, each with its last byte first. -/
  words : List Bytes := []
  /-- Does the next byte start an argument? -/
  apart : Bool := true
  /-- The quote that is open. -/
  quote? : Option UInt8 := none
  /-- The variables that have been named, each with its value if it has one; the last one first. -/
  named : List (Bytes × Option Bytes) := []

namespace Splitting

/-- Start an argument if one is due. -/
def begin (splitting : Splitting) : Splitting :=
  if splitting.apart then { splitting with words := [] :: splitting.words, apart := false }
  else splitting

/-- Add bytes to the last argument. -/
def add (splitting : Splitting) (bytes : Bytes) : Splitting :=
  let begun := splitting.begin
  match begun.words with
  | word :: others => { begun with words := (bytes.reverse ++ word) :: others }
  | [] => begun

/-- The arguments in order. -/
def finish (splitting : Splitting) : List Bytes := (splitting.words.map List.reverse).reverse

/-- The name in front of a closing brace, and what follows, if a variable may have that name. -/
def nameInBraces? (bytes : Bytes) : Option (Bytes × Bytes) :=
  match bytes with
  | brace :: first :: rest =>
    let continues (b : UInt8) : Bool := Byte.isAlphanumeric b || b == Byte.underscore
    let name := (first :: rest).takeWhile continues
    match (first :: rest).drop name.length with
    | closing :: after =>
      if brace = Byte.leftBrace ∧ closing = Byte.rightBrace ∧ name ≠ [] ∧ !Byte.isDigit first then
        some (name, after)
      else none
    | [] => none
  | _ => none

/-- What a code behind a backslash does. -/
inductive Effect where
  | byte (b : UInt8)
  | gap
  | stop
  | wrong (text : Bytes)

/-- What a code behind a backslash does, given whether it stands in double quotes. -/
def effectOf (quoted : Bool) (code : UInt8) : Effect :=
  if Byte.isOneOf code "\"#$'\\" then .byte code
  else
    match Byte.char code with
    | '_' => if quoted then .byte Byte.space else .gap
    | 'c' => if quoted then .wrong "'\\c' must not appear in double-quoted -S string" else .stop
    | 'f' => .byte Byte.formFeed
    | 'n' => .byte Byte.newline
    | 'r' => .byte Byte.carriageReturn
    | 't' => .byte Byte.tab
    | 'v' => .byte Byte.verticalTab
    | _ => .wrong ("invalid sequence '\\" ++ [code] ++ "' in -S")

/-- Split a text into arguments, with the values of variables put in. What is wrong with the text, if
    anything is, stands beside how far it has been split. -/
def split (values : List (Bytes × Bytes)) : Nat → Splitting → Bytes → Splitting × Option Bytes
  | fuel + 1, splitting, b :: rest =>
    let go := split values fuel
    let single := splitting.quote? == some Byte.quote
    let double := splitting.quote? == some Byte.doubleQuote
    let isQuote := (b = Byte.quote && !double) || (b = Byte.doubleQuote && !single)
    if isQuote then
      let quote? := if splitting.quote?.isSome then none else some b
      go { splitting.begin with quote? } rest
    else if Integer.isSpace b && splitting.quote?.isNone then go { splitting with apart := true } rest
    else if b = Byte.hash && splitting.apart then (splitting, none)
    else if b = Byte.backslash then
      match rest with
      | [] =>
        (splitting, some (if single then "no terminating quote in -S string"
          else "invalid backslash at end of string in -S"))
      | code :: after =>
        if single && code ≠ Byte.backslash && code ≠ Byte.quote then go (splitting.add [b]) rest
        else
          match effectOf double code with
          | .byte b => go (splitting.add [b]) after
          | .gap => go { splitting with apart := true } after
          | .stop => (splitting, none)
          | .wrong text => (splitting, some text)
    else if b = Byte.dollar && !single then
      match nameInBraces? rest with
      | none =>
        (splitting, some ("only $\x7bVARNAME\x7d expansion is supported, error at: " ++ b :: rest))
      | some (name, after) =>
        let value? := values.lookup name
        let noted := { splitting with named := (name, value?) :: splitting.named }
        go (value?.elim noted noted.add) after
    else go (splitting.add [b]) rest
  | _, splitting, _ =>
    (splitting, if splitting.quote?.isSome then some "no terminating quote in -S string" else none)

end Splitting

/-! ## Arguments -/

/-- What `env` is told to do. -/
structure Orders where
  /-- Are the variables that are there left out? -/
  ignores : Bool := false
  unset : List Bytes := []
  /-- Does a NUL byte end each line that is shown? -/
  endsInNul : Bool := false
  directory? : Option Path := none
  /-- Is every step announced? -/
  announces : Bool := false
  /-- What follows the options. -/
  words : List Bytes := []

/-- Note an option. -/
def Orders.withOption (orders : Orders) (letter : Char) (value : Bytes) : Orders :=
  match letter with
  | 'i' => { orders with ignores := true }
  | 'u' => { orders with unset := orders.unset ++ [value] }
  | '0' => { orders with endsInNul := true }
  | 'C' => { orders with directory? := some value }
  | 'v' => { orders with announces := true }
  | _ => orders

/-- The options of `env`. -/
def known : Utility.Known :=
  { flags := "i0v", valued := "uCS", inFront := true
    long := [("ignore-environment", 'i'), ("null", '0'), ("unset", 'u'), ("chdir", 'C'),
             ("split-string", 'S'), ("debug", 'v')] }

/-- Say that the arguments of a first line belong behind another option. -/
def hint : Action Unit := Utility.complain "use -[v]S to pass options in shebang lines"

/-- Say something if every step is announced. -/
def announce (orders : Orders) (text : Bytes) : Action Unit := do
  if orders.announces then Process.say text

/-- Announce which values have been put in for variables. -/
def announceValues (orders : Orders) (splitting : Splitting) : Action Unit :=
  splitting.named.reverse.forM fun (name, value?) =>
    let written : Bytes := "$\x7b" ++ name ++ [Byte.rightBrace]
    announce orders (match value? with
      | some value => "expanding " ++ written ++ " into " ++ Text.Safe.literal value
      | none => "replacing " ++ written ++ " with null string")

/-- Announce what an argument has been split into. -/
def announceSplitting (orders : Orders) (text : Bytes) (words : List Bytes) : Action Unit := do
  match words with
  | [] => pure ()
  | first :: others => do
    announce orders ("split -S:  " ++ Text.Safe.literal text)
    announce orders (" into:    " ++ Text.Safe.literal first)
    others.forM fun word => announce orders ("     &    " ++ Text.Safe.literal word)

/-- Is the first letter that is no option a blank? The first line of a script may be to blame. -/
def strayBlank (letters : Bytes) : Bool :=
  let others := letters.dropWhile fun b => known.flags.toList.contains (Byte.char b)
  others.head?.any Integer.isSpace

/-- Read arguments up to the first that is no option; none if they are wrong, which has been said. -/
def read : Nat → List Bytes → Orders → Action (Option Orders)
  | fuel + 1, (dash :: letter :: rest) :: others, orders => do
    if dash ≠ Byte.dash then return some { orders with words := (dash :: letter :: rest) :: others }
    else if letter = Byte.dash ∧ rest = [] then return some { orders with words := others }
    else
      let step := if letter = Byte.dash then known.readLong {} others.head? rest
        else known.readLetters {} others.head? (letter :: rest)
      match step with
      | .error complaint => do
        Utility.complain complaint.text
        if letter ≠ Byte.dash && strayBlank (letter :: rest) then hint
        Utility.offerHelp
        return none
      | .ok (found, takesNext) => do
        let orders := found.options.foldl (fun orders option => orders.withOption option.1 option.2) orders
        let others := if takesNext then others.drop 1 else others
        match found.value? 'S' with
        | none => read fuel others orders
        | some text =>
          let (splitting, wrong?) := Splitting.split (← get).environment (text.length + 1) {} text
          announceValues orders splitting
          match wrong? with
          | some wrong => do
            Utility.complain wrong
            return none
          | none => do
            let words := splitting.finish
            announceSplitting orders text words
            read fuel (words ++ others) orders
  | _, words, orders => return some { orders with words }

/-! ## Starting -/

/-- Set variables from arguments; with the arguments that are left. -/
def setVariables (orders : Orders) :
    List Bytes → List (Bytes × Bytes) → Action (List (Bytes × Bytes) × List Bytes)
  | [], environment => return (environment, [])
  | argument :: others, environment => do
    let name := argument.takeWhile (· ≠ Byte.equals)
    match argument.drop name.length with
    | [] => return (environment, argument :: others)
    | _ :: value => do
      announce orders ("setenv:   " ++ argument)
      let isKnown := environment.any fun entry => entry.1 == name
      let changed :=
        if isKnown then environment.map fun entry => if entry.1 = name then (name, value) else entry
        else environment ++ [(name, value)]
      setVariables orders others changed

/-- The variables without some, or a name that none can have. -/
def unsetVariables (names : List Bytes) (environment : List (Bytes × Bytes)) :
    Except Bytes (List (Bytes × Bytes)) :=
  match names.find? fun name => name.isEmpty || name.contains Byte.equals with
  | some wrong => .error wrong
  | none => .ok (environment.filter fun entry => !names.contains entry.1)

/-- The exit status when something is wrong before a program is started. -/
def failure : Nat := 125

/-- Refuse arguments. -/
def refuse (text : Bytes) : Action Ending := do return .exited (← Utility.refuse text failure)

/-- Show the variables. -/
def list (endsInNul : Bool) (environment : List (Bytes × Bytes)) : Action Nat :=
  let last := if endsInNul then Byte.nul else Byte.newline
  Utility.emit (environment.flatMap fun (name, value) => name ++ Byte.equals :: value ++ [last]) 0 failure

/-- Start a program by its name. -/
def start (runner : Image → Action Ending) (orders : Orders) (environment : List (Bytes × Bytes))
    (name : Bytes) (arguments : List Bytes) : Action Ending := do
  announce orders ("executing: " ++ name)
  (name :: arguments).zipIdx.forM fun (argument, place) =>
    announce orders ("   arg[" ++ Integer.toBytes place ++ "]= " ++ Text.Safe.literal argument)
  let files := (← get).files
  let searched := (environment.lookup ("PATH" : Bytes)).getD "/bin:/usr/bin"
  let handedOver := environment.map fun (name, value) => name ++ Byte.equals :: value
  match Image.attemptAll (Image.ofPathOrScript files ⟨name, arguments, handedOver⟩) searched name with
  | .error cause => do
    Utility.complainAbout [] (Text.Safe.literal name) cause
    if cause = .notFound && name.any Integer.isSpace then hint
    return .exited (if cause = .notFound then 127 else 126)
  | .ok image => do
    modify fun p => { p with environment }
    runner image

/-- Move to another directory, and report whether that can be done. -/
def changeDirectory (path : Path) : Action (Except SystemError Unit) := fun p =>
  match Fixture.directory? p.files path with
  | some location => (.ok (), { p with files := { p.files with workingDir := location, adrift := false } })
  | none =>
    let cause := match Fixture.stat p.files path with
      | .error cause => cause
      | .ok _ => .notDirectory
    (.error cause, p)

/-- Start a program with other variables, or show the variables. -/
def obey (runner : Image → Action Ending) (orders : Orders) : Action Ending := do
  let lone := orders.words.head? = some ("-" : Bytes)
  let orders := { orders with
    ignores := orders.ignores || lone, words := orders.words.drop (if lone then 1 else 0) }
  if orders.ignores then announce orders "cleaning environ"
  else orders.unset.forM fun name => announce orders ("unset:    " ++ name)
  let before := (← get).environment
  match if orders.ignores then .ok [] else unsetVariables orders.unset before with
  | .error wrong => do
    Utility.complainAbout "cannot unset " (Text.Safe.literal wrong) .invalidArgument
    return .exited failure
  | .ok kept => do
    let (environment, words) ← setVariables orders orders.words kept
    match words, orders.directory? with
    | [], none => return .exited (← list orders.endsInNul environment)
    | [], some _ => refuse "must specify command with --chdir (-C)"
    | name :: arguments, directory? => do
      if orders.endsInNul then refuse "cannot specify --null (-0) with command"
      else
        directory?.forM fun path => announce orders ("chdir:    " ++ Text.Safe.quoted path)
        match ← directory?.elim (pure (.ok ())) changeDirectory with
        | .error cause => do
          Utility.complainAbout "cannot change directory to "
            (Text.Safe.quoted (directory?.getD [])) cause
          return .exited failure
        | .ok () => start runner orders environment name arguments

/-- How many arguments are read at most, as some are split. -/
def maxArguments : Nat := 100000

/-- Run `env` on its arguments. -/
def run (runner : Image → Action Ending) (arguments : List Bytes) : Action Ending := do
  match ← read maxArguments arguments {} with
  | none => return .exited failure
  | some orders => obey runner orders

end ModuleMapper.Environment
