import ModuleMapper.Host.Shell.Builtin.Arguments
import ModuleMapper.Host.Shell.Fields
import ModuleMapper.Host.Shell.Expansion

/-!
# Reading — lines and options, taken apart for scripts

  A line is read into variables, split like the value of a word. The options of a script are read one
  at a time.
-/

namespace ModuleMapper.Shell.Builtin

open scoped Bytes
open Run

/-! ## Lines -/

/-- A byte that was read, and whether it may separate fields. -/
abbrev ReadByte := UInt8 × Bool

/-- How many lines may be joined. -/
def maxJoined : Nat := 1000000

/-- The bytes of a line, where a backslash protects the byte behind it and may join lines. With them,
    whether the line has an end. -/
def readBytes (raw : Bool) : Nat → List ReadByte → Run (List ReadByte × Bool)
  | 0, taken => return (taken, false)
  | fuel + 1, taken => do
    match ← act (Process.readLine 0) with
    | .error _ => return (taken, false)
    | .ok line =>
      let (bytes, joins) := scan line
      if joins then readBytes raw fuel (taken ++ bytes)
      else return (taken ++ bytes, line.getLast? = some Byte.newline)
where
  scan : Bytes → List ReadByte × Bool
    | [] => ([], false)
    | [b] =>
      if b = Byte.newline || (!raw && b = Byte.backslash) then ([], false) else ([(b, true)], false)
    | b :: c :: rest =>
      if !raw && b = Byte.backslash then
        if c = Byte.newline then ([], true)
        else
          let (others, joins) := scan rest
          ((c, false) :: others, joins)
      else
        let (others, joins) := scan (c :: rest)
        ((b, true) :: others, joins)

/-- The first field of a line, and what follows its separator. -/
def firstField (separators : Bytes) (bytes : List ReadByte) : Bytes × List ReadByte :=
  let separates (b : ReadByte) : Bool := b.2 && separators.contains b.1
  let white (b : ReadByte) : Bool := separates b && Splitter.isWhite b.1
  let bytes := bytes.dropWhile white
  let field := bytes.takeWhile (!separates ·)
  let rest := (bytes.drop field.length).dropWhile white
  let rest := match rest with
    | b :: others => if separates b then others.dropWhile white else rest
    | [] => []
  (field.map Prod.fst, rest)

/-- Spread a line over variables; the last gets what is left. -/
def spread (separators : Bytes) : List Bytes → List ReadByte → List (Bytes × Bytes)
  | [], _ => []
  | [name], bytes =>
    let separates (b : ReadByte) : Bool := b.2 && separators.contains b.1
    let white (b : ReadByte) : Bool := separates b && Splitter.isWhite b.1
    let bytes := ((bytes.dropWhile white).reverse.dropWhile white).reverse
    let (field, rest) := firstField separators bytes
    [(name, if rest = [] then field else bytes.map Prod.fst)]
  | name :: others, bytes =>
    let (field, rest) := firstField separators bytes
    (name, field) :: spread separators others rest

/-- Read a line into variables. -/
def read (arguments : List Bytes) : Run Nat := do
  let (raw, names) ← match arguments with
    | first :: others =>
      if first = ("-p" : Bytes) then do
        let (letters, names) ← options "r" (others.drop 1)
        pure (letters.contains 'r', names)
      else if first = ("-rp" : Bytes) then pure (true, others.drop 1)
      else do
        let (letters, names) ← options "r" arguments
        let names := if names.head? = some ("-p" : Bytes) then names.drop 2 else names
        pure (letters.contains 'r', names)
    | [] => pure (false, [])
  if names = [] then fail "arg count"
  else
    let (bytes, ended) ← readBytes raw maxJoined []
    let bytes := bytes.filter fun b => b.1 != Byte.nul
    for (name, value) in spread (← separators) names bytes do
      assign name value
    return if ended then 0 else 1

/-! ## Options -/

/-- What one step of `getopts` finds. -/
structure OptionStep where
  letter : UInt8
  value : Option Bytes
  /-- The number of the next argument. -/
  next : Nat
  /-- How far the argument before that has been read, if it holds more letters. -/
  offset : Nat
  complaint : Option Bytes := none
  done : Bool := false

/-- Find the next option. -/
def nextOption (known : Bytes) (arguments : List Bytes) (index offset : Nat) : OptionStep :=
  let index := if index = 0 then 1 else index
  let current := if offset = 0 then [] else ((arguments[index - 2]?).getD []).drop offset
  let finished (next : Nat) : OptionStep :=
    { letter := Byte.question, value := none, next, offset := 0, done := true }
  let start : Option (Bytes × Nat × Nat) :=
    if current ≠ [] then some (current, index, offset)
    else
      match arguments[index - 1]? with
      | some (dash :: b :: rest) => if dash = Byte.dash then some (b :: rest, index + 1, 1) else none
      | _ => none
  match start with
  | none => finished index
  | some ([], next, _) => finished next
  | some (b :: rest, next, offset) =>
    if b = Byte.dash ∧ rest = [] ∧ current = [] then finished next
    else
      let silent := known.head? == some Byte.colon
      let after := known.dropWhile (· ≠ b)
      let moved := if rest = [] then 0 else offset + 1
      if after = [] || b = Byte.colon then
        { letter := Byte.question, value := if silent then some [b] else none, next, offset := moved
          complaint := if silent then none else some ("Illegal option -" ++ [b]) }
      else if after.tail.head? ≠ some Byte.colon then
        { letter := b, value := some [], next, offset := moved }
      else if rest ≠ [] then { letter := b, value := some rest, next, offset := 0 }
      else
        match arguments[next - 1]? with
        | some value => { letter := b, value := some value, next := next + 1, offset := 0 }
        | none =>
          { letter := if silent then Byte.colon else Byte.question, value := if silent then some [b] else none
            next, offset := 0
            complaint := if silent then none else some ("No arg for -" ++ [b] ++ " option") }

/-- Read the options of a script one at a time. -/
def getopts (arguments : List Bytes) : Run Nat := do
  match arguments with
  | known :: name :: others => do
    let m ← get
    let operands := if others = [] then m.arguments else others
    let index := ((← valueOf "OPTIND").bind Integer.ofPlainDigits?).getD 1
    let (index, offset) :=
      if index > operands.length + 1 then (1, 0) else (index, m.optionOffset)
    let found := nextOption known operands index offset
    match found.complaint with
    | some text => say text
    | none => pure ()
    match found.value with
    | some value => assign "OPTARG" value
    | none => if !found.done then Run.unset "OPTARG"
    assign "OPTIND" (Integer.toBytes found.next)
    modify fun m => { m with optionOffset := found.offset }
    assign name [found.letter]
    return if found.done then 1 else 0
  | _ => fail "Usage: getopts optstring var [arg...]"

end ModuleMapper.Shell.Builtin
