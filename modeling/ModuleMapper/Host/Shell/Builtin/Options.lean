import ModuleMapper.Host.Shell.Builtin.Arguments

/-!
# Options — how a shell behaves

  Every option has a name, and most have a letter. A dash sets options, and a plus takes them back.
-/

namespace ModuleMapper.Shell.Builtin

open scoped Bytes
open Run

/-- The options by their names, in the order in which they are listed. -/
def optionNames : List (String × Char) :=
  [("errexit", 'e'), ("noglob", 'f'), ("ignoreeof", 'I'), ("interactive", 'i'), ("monitor", 'm'),
   ("noexec", 'n'), ("stdin", 's'), ("xtrace", 'x'), ("verbose", 'v'), ("vi", 'V'),
   ("emacs", 'E'), ("noclobber", 'C'), ("allexport", 'a'), ("notify", 'b'), ("nounset", 'u'),
   ("privileged", 'p'), ("nolog", 'l'), ("debug", 'd')]

/-- Set an option, or take it back. -/
def setOption (letter : Char) (on : Bool) : Run Unit :=
  modify fun m =>
    let others := m.options.filter (· != letter)
    { m with options := if on then letter :: others else others }

/-- Set an option by its letter. -/
def setLetter (b : UInt8) (on : Bool) : Run Unit := do
  if Byte.isOneOf b "efIimnsxvVECabup" then setOption (Byte.char b) on
  else fail ("Illegal option -" ++ [b])

/-- Show all options. -/
def listOptions (on : Bool) : Run Unit := do
  let set := (← get).options
  let rows := optionNames.map fun (name, letter) =>
    if on then
      name ++ String.ofList (List.replicate (16 - name.length) ' ')
        ++ (if set.contains letter then "on" else "off") ++ "\n"
    else "set " ++ (if set.contains letter then "-o " else "+o ") ++ name ++ "\n"
  let title := if on then "Current option settings\n" else ""
  let _ ← put (Bytes.ofString (title ++ String.join rows))

/-- Set an option by its name. -/
def setNamed (name : Bytes) (on : Bool) : Run Unit := do
  match optionNames.find? fun entry => Bytes.ofString entry.1 == name with
  | some (_, letter) => setOption letter on
  | none => fail ("Illegal option -o " ++ name)

/-- Set options by letters. Some stand for names, which are the next arguments, or for a listing if
    there are none left. The result is the arguments behind. -/
def setLetters (on : Bool) : Bytes → List Bytes → Run (List Bytes)
  | [], arguments => return arguments
  | b :: letters, arguments => do
    if b ≠ 'o'.toUInt8 then
      setLetter b on
      setLetters on letters arguments
    else
      match arguments with
      | name :: others => do
        setNamed name on
        setLetters on letters others
      | [] => do
        listOptions on
        setLetters on letters []

/-- Set options from the front of so many arguments. The result is the other arguments, and whether
    options were ended by two dashes. -/
def setOptions : Nat → List Bytes → Run (List Bytes × Bool)
  | fuel + 1, (sign :: letters) :: others => do
    let on := sign == Byte.dash
    if !on && sign != Byte.plus then return ((sign :: letters) :: others, false)
    else if on && letters = [] then
      setOption 'x' false
      setOption 'v' false
      return (others, false)
    else if on && letters = [Byte.dash] then return (others, true)
    else setOptions fuel (← setLetters on letters others)
  | _, arguments => return (arguments, false)

/-- Set options and arguments. -/
def set (arguments : List Bytes) : Run Nat := do
  if arguments = [] then put (← listed [] fun v => v.value.isSome)
  else
    let (operands, ended) ← setOptions arguments.length arguments
    if operands ≠ [] || ended then
      modify fun m => { m with arguments := operands, optionOffset := 0 }
      assign "OPTIND" "1"
    return 0

end ModuleMapper.Shell.Builtin
