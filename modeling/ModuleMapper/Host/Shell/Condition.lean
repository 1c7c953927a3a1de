import ModuleMapper.Host.Fixture
import ModuleMapper.Host.Text.Integer

/-!
# Conditions — what `test` finds out

  A condition compares texts, numbers and files. Conditions are joined by `-a`, `-o` and `!`, and may
  stand in parentheses. A word that looks like an operator is taken as an operand where no operand
  follows it.
-/

namespace ModuleMapper.Shell.Condition

open scoped Bytes

/-- What an operator does. -/
inductive Role where
  /-- It says something of the operand behind it. -/
  | unary
  /-- It compares the operands around it. -/
  | binary
  | not | and | or | open | close
  deriving Repr, DecidableEq

/-- The operators. -/
def roles : List (String × Role) :=
  (["-r", "-w", "-x", "-e", "-f", "-d", "-c", "-b", "-p", "-u", "-g", "-k", "-s", "-t", "-z", "-n",
    "-h", "-O", "-G", "-L", "-S"].map fun name => (name, .unary))
  ++ (["=", "!=", "<", ">", "-eq", "-ne", "-ge", "-gt", "-le", "-lt", "-nt", "-ot", "-ef"].map
    fun name => (name, .binary))
  ++ [("!", .not), ("-a", .and), ("-o", .or), ("(", .open), (")", .close)]

/-- The role of a word by itself. -/
def role? (word : Bytes) : Option Role :=
  (roles.find? fun entry => Bytes.ofString entry.1 == word).map Prod.snd

/-- What the first of some words is. -/
inductive Lexeme where
  | none
  | operand
  | operator (role : Role)
  deriving Repr, DecidableEq

/-- Is the word in front an operand, although it looks like a unary operator? -/
def isOperand : List Bytes → Bool
  | [] | [_] => true
  | [_, _] => false
  | _ :: second :: _ => role? second == some .binary

/-- What the first word is. -/
def lexeme (words : List Bytes) : Lexeme :=
  match words with
  | [] => .none
  | word :: others =>
    match role? word with
    | none => .operand
    | some .unary => if isOperand words then .operand else .operator .unary
    | some .open => if others = [] then .operand else .operator .open
    | some role => .operator role

/-- Reading a condition: the words from the current one on, or what is wrong. -/
abbrev Reading := StateT (List Bytes) (Except Bytes)

/-- What a condition asks about. -/
structure World where
  files : FileSystem
  /-- Is a descriptor a terminal? -/
  isTerminal : Nat → Bool

variable (world : World)

/-- Go on by some words. -/
def advance (count : Nat) : Reading Unit := modify fun words => words.drop count

/-- The number that a word writes. -/
def number (word : Bytes) : Reading Int :=
  match Integer.ofBytes? 10 word with
  | some value => return value
  | none => throw (("Illegal number: " : Bytes) ++ word)

/-- Does a unary operator say the truth of its operand? -/
def holds (operator operand : Bytes) : Reading Bool := do
  let entry := (Fixture.stat world.files operand).toOption
  let device := match Fixture.lookup? world.files operand with
    | some (.ok (.device device)) => some device
    | _ => none
  match operator.toString? with
  | some "-z" => return operand == []
  | some "-n" => return operand != []
  | some "-t" => return world.isTerminal (← number operand).toNat
  | some "-r" | some "-w" | some "-e" | some "-O" | some "-G" => return entry.isSome
  | some "-f" => return device.isNone && entry.any fun entry => !entry.isDirectory
  | some "-d" => return entry.any Entry.isDirectory
  | some "-s" => return entry.any fun entry => entry.isDirectory || entry.content != []
  | some "-x" =>
    return match entry with
      | some (.file _ _ executable) => executable
      | some (.directory _) => true
      | none => false
  | some "-c" => return device == some .null
  | some "-h" | some "-L" => return Fixture.isLink world.files operand
  | _ => return false

/-- Does a binary operator say the truth of its operands? -/
def compares (left operator right : Bytes) : Reading Bool := do
  let numbers (relation : Int → Int → Bool) : Reading Bool := do
    let a ← number left
    let b ← number right
    return relation a b
  let newer (a b : Bytes) : Bool :=
    match Fixture.stat world.files a, Fixture.stat world.files b with
    | .ok a, .ok b => b.modified.before a.modified
    | _, _ => false
  match operator.toString? with
  | some "=" => return left == right
  | some "!=" => return left != right
  | some "<" => return left < right
  | some ">" => return right < left
  | some "-eq" => numbers (· == ·)
  | some "-ne" => numbers (· != ·)
  | some "-ge" => numbers (· ≥ ·)
  | some "-gt" => numbers (· > ·)
  | some "-le" => numbers (· ≤ ·)
  | some "-lt" => numbers (· < ·)
  | some "-nt" => return newer left right
  | some "-ot" => return newer right left
  | _ =>
    return match Fixture.lookup? world.files left, Fixture.lookup? world.files right with
      | some (.ok a), some (.ok b) => a == b
      | none, none =>
        match world.files.lookup left, world.files.lookup right with
        | .ok a, .ok b => a == b
        | _, _ => false
      | _, _ => false

/-- Read an operand with its operator. What stands in parentheses is read by `whole`. -/
def primary (whole : Lexeme → Reading Bool) (first : Lexeme) : Reading Bool := do
  match first, ← get with
  | .none, _ => return false
  | .operator .open, _ => do
    advance 1
    let inside := lexeme (← get)
    if inside = .operator .close then return false
    else
      let result ← whole inside
      advance 1
      if lexeme (← get) = .operator .close then return result
      else throw ("closing paren expected" : Bytes)
  | .operator .unary, operator :: others => do
    advance 1
    match others with
    | [] => throw (operator ++ (": argument expected" : Bytes))
    | operand :: _ => holds world operator operand
  | _, left :: operator :: others =>
    if lexeme (operator :: others) = .operator .binary then do
      advance 2
      match others with
      | [] => throw (operator ++ (": argument expected" : Bytes))
      | right :: _ => compares world left operator right
    else return left != []
  | _, [left] => return left != []
  | _, [] => return false

mutual

/-- Read a condition, or its opposite. -/
def negation : Nat → Lexeme → Reading Bool
  | 0, _ => return false
  | fuel + 1, first => do
    if first = .operator .not then
      let next := lexeme ((← get).drop 1)
      if next != .none then advance 1
      return !(← negation fuel next)
    else primary world (disjunction fuel) first

/-- Read conditions joined by `-a`. -/
def conjunction : Nat → Lexeme → Reading Bool
  | 0, _ => return false
  | fuel + 1, first => do
    let result ← negation fuel first
    if lexeme ((← get).drop 1) = .operator .and then
      advance 2
      let others ← conjunction fuel (lexeme (← get))
      return result && others
    else return result

/-- Read conditions joined by `-o`. -/
def disjunction : Nat → Lexeme → Reading Bool
  | 0, _ => return false
  | fuel + 1, first => do
    let result ← conjunction fuel first
    if lexeme ((← get).drop 1) = .operator .or then
      advance 2
      let others ← disjunction fuel (lexeme (← get))
      return result || others
    else return result

end

/-- Read a whole condition from its first word on. -/
def whole (first : Lexeme) : Reading Bool := do
  let result ← disjunction world (4 * (← get).length + 8) first
  match ← get with
  | word :: _ :: _ =>
    let text : Bytes :=
      if word = [] then "unexpected operator" else word ++ (": unexpected operator" : Bytes)
    throw text
  | _ => return result

/-- Find out whether some words hold. Up to four words are taken by their number. -/
def evaluate : Nat → List Bytes → Except Bytes Bool
  | 0, _ => .ok false
  | fuel + 1, words =>
    let run (first : Lexeme) (words : List Bytes) : Except Bytes Bool :=
      (whole world first).run' words
    match words with
    | [] => .ok false
    | first :: others =>
      let bracketed :=
        first == ("(" : Bytes) && words.getLast? == some (")" : Bytes)
      let three := words.length = 3
      if three && (others.head?.bind role?) == some .binary then run .operand words
      else if (three || words.length = 4) && bracketed then
        run (lexeme others.dropLast) others.dropLast
      else if (three || words.length = 4) && first == ("!" : Bytes) then
        (evaluate fuel others).map (!·)
      else run (lexeme words) words

end ModuleMapper.Shell.Condition
