import ModuleMapper.Host.Process
import ModuleMapper.Host.Text.Safe

/-!
# Options — the arguments of utilities

  An argument that starts with a dash holds options, each a letter; some take a value, which follows
  the letter or is the next argument. An argument with two dashes holds one option by its long name.
  Options may stand behind other arguments, unless two dashes alone have ended them.
-/

namespace ModuleMapper.Utility

open scoped Bytes

/-- The arguments of a utility, told apart. -/
structure Arguments where
  /-- The options in order, each with its value, which is empty for a flag. -/
  options : List (Char × Bytes) := []
  operands : List Bytes := []

namespace Arguments

/-- Is an option given? -/
def has (arguments : Arguments) (letter : Char) : Bool :=
  arguments.options.any fun option => option.1 == letter

/-- The last value of an option. -/
def value? (arguments : Arguments) (letter : Char) : Option Bytes :=
  arguments.options.reverse.lookup letter

/-- Add an option. -/
def add (arguments : Arguments) (letter : Char) (value : Bytes) : Arguments :=
  { arguments with options := arguments.options ++ [(letter, value)] }

end Arguments

/-- What is wrong with the arguments of a utility. -/
structure Complaint where
  text : Bytes
  /-- Does it also say where help is to be had? -/
  offersHelp : Bool := true

/-- The options that a utility knows. -/
structure Known where
  /-- The letters without a value. -/
  flags : String := ""
  /-- The letters with a value. -/
  valued : String := ""
  /-- The letters whose value is what follows in the same argument, even if that is nothing. -/
  attached : String := ""
  /-- The letters of long names. -/
  long : List (String × Char) := []
  /-- Do options end at the first other argument? -/
  inFront : Bool := false
  /-- What is wrong with an option and its value, which is said at once. -/
  objection? : Char → Bytes → Option Complaint := fun _ _ => none

namespace Known

/-- Add an option, unless something is wrong with it. -/
def accept (known : Known) (read : Arguments) (letter : Char) (value : Bytes) :
    Except Complaint Arguments :=
  match known.objection? letter value with
  | some complaint => .error complaint
  | none => .ok (read.add letter value)

/-- Read the letters of one argument. The value of the last may be the next argument, and the result
    says whether it is. -/
def readLetters (known : Known) (read : Arguments) (next? : Option Bytes) :
    Bytes → Except Complaint (Arguments × Bool)
  | [] => .ok (read, false)
  | b :: rest =>
    let letter := Byte.char b
    if known.flags.toList.contains letter then
      match known.accept read letter [] with
      | .ok read => known.readLetters read next? rest
      | .error complaint => .error complaint
    else if known.attached.toList.contains letter then
      (known.accept read letter rest).map fun read => (read, false)
    else if known.valued.toList.contains letter then
      match rest, next? with
      | [], none => .error { text := "option requires an argument -- '" ++ [b] ++ [Byte.quote] }
      | [], some value => (known.accept read letter value).map fun read => (read, true)
      | value, _ => (known.accept read letter value).map fun read => (read, false)
    else .error { text := "invalid option -- '" ++ [b] ++ [Byte.quote] }

/-- The long option at the front of an argument, with its letter; the name may be cut short where that
    leaves no doubt. -/
def longNamed (known : Known) (argument : Bytes) : Except Complaint (Bytes × Char) :=
  let written := argument.takeWhile (· ≠ Byte.equals)
  let entries := known.long.map fun entry => (Bytes.ofString entry.1, entry.2)
  let candidates := entries.filter fun entry => written.isPrefixOf entry.1
  match entries.find? fun entry => entry.1 == written, candidates with
  | some entry, _ => .ok entry
  | none, [] => .error { text := "unrecognized option '--" ++ argument ++ [Byte.quote] }
  | none, first :: others =>
    if others.all fun entry => entry.2 == first.2 then .ok first
    else
      let possible (entry : Bytes × Char) : Bytes := " '--" ++ entry.1 ++ [Byte.quote]
      .error
        { text := "option '--" ++ argument ++ "' is ambiguous; possibilities:"
            ++ candidates.flatMap possible }

/-- Read an option by its long name. -/
def readLong (known : Known) (read : Arguments) (next? : Option Bytes) (argument : Bytes) :
    Except Complaint (Arguments × Bool) := do
  let (name, letter) ← known.longNamed argument
  let value? := (argument.dropWhile (· ≠ Byte.equals)).tail?
  if known.valued.toList.contains letter then
    match value?, next? with
    | some value, _ => return (← known.accept read letter value, false)
    | none, some value => return (← known.accept read letter value, true)
    | none, none => .error { text := "option '--" ++ name ++ "' requires an argument" }
  else
    match value? with
    | none => return (← known.accept read letter [], false)
    | some _ => .error { text := "option '--" ++ name ++ "' doesn't allow an argument" }

/-- Read arguments; or say what is wrong with them. -/
def read (known : Known) (arguments : Arguments) : List Bytes → Except Complaint Arguments
  | [] => .ok arguments
  | argument :: others =>
    match argument with
    | a :: b :: rest =>
      if a ≠ Byte.dash then
        if known.inFront then
          .ok { arguments with operands := arguments.operands ++ argument :: others }
        else known.read { arguments with operands := arguments.operands ++ [argument] } others
      else if b = Byte.dash ∧ rest = [] then
        .ok { arguments with operands := arguments.operands ++ others }
      else
        let step :=
          if b = Byte.dash then known.readLong arguments others.head? rest
          else known.readLetters arguments others.head? (b :: rest)
        match step with
        | .error complaint => .error complaint
        | .ok (read, false) => known.read read others
        | .ok (read, true) => known.read read (others.drop 1)
    | _ =>
      if known.inFront then
        .ok { arguments with operands := arguments.operands ++ argument :: others }
      else known.read { arguments with operands := arguments.operands ++ [argument] } others
termination_by list => list.length
decreasing_by all_goals simp; try omega

end Known

/-! ## Diagnostics -/

/-- Say what is wrong, under the name of the program. -/
def complain (text : Bytes) : Action Unit := do
  Process.say ((← get).program ++ ": " ++ text)

/-- Say where help is to be had. -/
def offerHelp : Action Unit := do
  Process.say ("Try '" ++ (← get).program ++ " --help' for more information.")

/-- Say what is wrong with the arguments; with the exit status. -/
def refuse (text : Bytes) (status : Nat := 1) : Action Nat := do
  complain text
  offerHelp
  return status

/-- Say that a file is in the way. -/
def complainAbout (what path : Bytes) (cause : SystemError) : Action Unit :=
  complain (what ++ path ++ Bytes.ofString (": " ++ cause.text))

/-- Print, and say so if that is not possible; with the exit status, which may be one of its own then. -/
def emit (bytes : Bytes) (status : Nat := 0) (failed : Nat := 1) : Action Nat := do
  if bytes = [] then return status
  else
    match ← Process.write 1 bytes with
    | .ok () => return status
    | .error cause => do
      complain (Bytes.ofString ("write error: " ++ cause.text))
      return failed

/-- Print what has been done. The result says whether that was possible. -/
def announce (bytes : Bytes) : Action Bool := do return (← emit bytes) = 0

/-- Say what is wrong with the arguments; with the exit status. -/
def reject (complaint : Complaint) (status : Nat) : Action Nat := do
  complain complaint.text
  if complaint.offersHelp then offerHelp
  return status

/-- Does the variable that asks for strict rules exist? -/
def isStrict : Action Bool := do
  return ((← get).environment.lookup ("POSIXLY_CORRECT" : Bytes)).isSome

/-- Run a utility on its arguments, once they have been told apart. By strict rules options end at the
    first other argument. -/
def withOptions (known : Known) (arguments : List Bytes)
    (run : Arguments → Action Nat) (status : Nat := 1) : Action Nat := do
  let known := { known with inFront := known.inFront || (← isStrict) }
  match known.read {} arguments with
  | .error complaint => reject complaint status
  | .ok arguments => run arguments

/-- Do something for each of some operands; fails if it fails for one. -/
def forEach (operands : List Bytes) (run : Bytes → Action Bool) : Action Nat := do
  let outcomes ← operands.mapM run
  return if outcomes.all id then 0 else 1

end ModuleMapper.Utility
