import ModuleMapper.Host.Shell.Token

/-!
# Sources — the text of a script while it is read

  A source holds what has not been read, the line that the reading has come to, and the documents that
  wait for the next line. A backslash before the end of a line hides both, except in single quotes.

  A script that breaks a rule is misformed: the reading says which rule, and on which line.
-/

namespace ModuleMapper.Shell

open scoped Bytes

/-- A document that starts behind the next end of line. -/
structure PendingDocument where
  number : Nat
  /-- The line that ends it. -/
  mark : Bytes
  /-- Are tabs at the front of its lines left out? -/
  stripped : Bool
  /-- Are parameters and commands put in? -/
  expands : Bool
  deriving Repr, DecidableEq

/-- An alias whose text is being read. -/
structure Expanding where
  name : Bytes
  /-- How much of the script is left behind the text. -/
  behind : Nat
  /-- Does the text end in a blank, so that the word behind it may be an alias too? -/
  passesOn : Bool
  deriving Repr, DecidableEq

/-- A script that is being read. -/
structure Source where
  rest : Bytes
  /-- As much as is left, or more. -/
  bound : Nat
  line : Nat := 1
  /-- A token that was read too early. -/
  held : Option Token := none
  pending : List PendingDocument := []
  /-- The document that is being read. -/
  open? : Option PendingDocument := none
  /-- The documents that have been read, by their numbers. -/
  documents : List (Nat × Term) := []
  /-- The number of the next document. -/
  nextDocument : Nat := 0
  /-- The texts that stand for words in front of a command. -/
  aliases : List (Bytes × Bytes) := []
  /-- The aliases whose texts are being read. -/
  expanding : List Expanding := []

/-- How a script is wrong, and on which line. -/
structure Misformed where
  line : Nat
  text : String
  deriving Repr, DecidableEq

/-- Reading from a source. -/
abbrev Reading := StateT Source (Except Misformed)

namespace Source

/-- A script that has not been read yet. -/
def ofBytes (bytes : Bytes) : Source := { rest := bytes, bound := bytes.length }

/-- Leave out the ends of lines that a backslash hides. -/
def joinLines : Bytes → Nat → Bytes × Nat
  | a :: b :: rest, line =>
    if a = Byte.backslash ∧ b = Byte.newline then joinLines rest (line + 1) else (a :: b :: rest, line)
  | rest, line => (rest, line)

end Source

namespace Reading

/-- The script is wrong here. -/
def fail {α : Type} (text : String) : Reading α := do
  throw ⟨(← get).line, text⟩

/-- The next byte. -/
def peekRaw : Reading (Option UInt8) := do return (← get).rest.head?

/-- The next byte that no backslash hides. -/
def peek : Reading (Option UInt8) := do
  modify fun source =>
    let (rest, line) := Source.joinLines source.rest source.line
    { source with rest, line }
  peekRaw

/-- Is the next byte the given character? -/
def nextIs (char : Char) : Reading Bool := do
  return (← peek) == some char.toUInt8

/-- Go on behind the next byte. -/
def skip : Reading Unit :=
  modify fun source =>
    match source.rest with
    | [] => source
    | b :: rest =>
      { source with rest, line := if b = Byte.newline then source.line + 1 else source.line }

/-- Go on behind the given character, if it comes next. -/
def skipIf (char : Char) : Reading Bool := do
  let found ← nextIs char
  if found then skip
  return found

/-- Take bytes as long as they are of a kind. -/
def takeWhile (kind : UInt8 → Bool) : Reading Bytes := do
  let rec go : Nat → Bytes → Reading Bytes
    | 0, taken => pure taken.reverse
    | fuel + 1, taken => do
      match ← peek with
      | some b => if kind b then do skip; go fuel (b :: taken) else pure taken.reverse
      | none => pure taken.reverse
  go (← get).bound []

/-- Take bytes up to the given one, and go on behind it; none if it does not come. -/
def takeThrough (last : UInt8) : Reading (Option Bytes) := do
  let source ← get
  let taken := source.rest.takeWhile (· ≠ last)
  let line := source.line + taken.count Byte.newline
  match source.rest.drop taken.length with
  | [] => do
    set { source with rest := [], line }
    return none
  | _ :: rest => do
    set { source with rest, line := line + [last].count Byte.newline }
    return some taken

/-- Leave the texts of aliases that have been read. The result says whether one of them makes the word
    behind it an alias. -/
def leaveAliases : Reading Bool := do
  let source ← get
  if source.expanding.isEmpty then return false
  else
    let waiting := source.rest.length
    let (expanding, left) := source.expanding.partition fun entry => entry.behind < waiting
    set { source with expanding }
    return left.any Expanding.passesOn

/-- The text of an alias that is not being read already. -/
def alias? (name : Bytes) : Reading (Option Bytes) := do
  let source ← get
  return if source.expanding.any fun entry => entry.name == name then none
    else source.aliases.lookup name

/-- Read the text of an alias next. -/
def expandAlias (name text : Bytes) : Reading Unit :=
  modify fun source =>
    let entry : Expanding :=
      { name, behind := source.rest.length, passesOn := text.getLast?.any Byte.isBlank }
    { source with
      rest := text ++ source.rest
      bound := text.length + source.bound
      expanding := entry :: source.expanding }

/-- Hold a token back for the next who reads one. -/
def hold (token : Token) : Reading Unit := modify fun source => { source with held := some token }

/-- Another token should stand here. -/
def unexpected {α : Type} (token : Token) (wanted : Option Token) : Reading α :=
  let text := match wanted with
    | none => token.name ++ " unexpected"
    | some wanted => token.name ++ " unexpected (expecting " ++ wanted.name ++ ")"
  fail text

/-- Read other bytes for a while, from a line on. What comes behind the last command is left out. -/
def within {α : Type} (bytes : Bytes) (line : Nat) (reading : Reading α) : Reading α := do
  let outside ← get
  set { outside with
    rest := bytes, bound := bytes.length, line, held := none, pending := [], open? := none }
  let result ← reading
  modify fun inside =>
    { inside with
      rest := outside.rest, bound := outside.bound, line := outside.line, held := outside.held
      pending := outside.pending, open? := outside.open? }
  return result

/-- Read something with another document open, or none. -/
def withOpen {α : Type} (open? : Option PendingDocument) (reading : Reading α) : Reading α := do
  let outside := (← get).open?
  modify fun source => { source with open? }
  let result ← reading
  modify fun source => { source with open? := outside }
  return result

/-- A line starts. In a document its tabs may be left out, and it may be the line that ends the document,
    which is then read. The result says whether the document has ended. -/
def startLine : Reading Bool := do
  let source ← get
  match source.open? with
  | none => return false
  | some document => do
    let rest := if document.stripped then source.rest.dropWhile (· == Byte.tab) else source.rest
    let line := rest.takeWhile (· ≠ Byte.newline)
    if line = document.mark then
      set { source with rest := (rest.drop line.length).drop 1, line := source.line + 1 }
      return true
    else
      set { source with rest }
      return false

end Reading

end ModuleMapper.Shell
