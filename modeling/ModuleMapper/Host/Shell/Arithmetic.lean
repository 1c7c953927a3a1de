import ModuleMapper.Host.Shell.Command
import ModuleMapper.Host.Text.Integer

/-!
# Arithmetic — expressions over whole numbers

  Expressions are made of numbers and variables by the usual operators, and may assign. They are read
  by precedence: an assignment takes all that is on its right, a choice follows a condition, and the
  binary operators come in ten levels. Values are machine words; what does not fit is cut off.

  A text that breaks the rules is still an expression: what stands before the break is worked out
  first, and may go wrong in its own way. A break is found even in a part whose value is not needed.
-/

namespace ModuleMapper.Shell.Arithmetic

open scoped Bytes

/-- The operators between two values. -/
inductive Operation where
  | multiply | divide | remainder | add | subtract | shiftLeft | shiftRight
  | less | lessOrEqual | greater | greaterOrEqual | equal | notEqual
  | bitAnd | bitXor | bitOr
  deriving Repr, DecidableEq

/-- An expression. -/
inductive Expression where
  | number (value : Int)
  | named (name : Bytes)
  | negative (operand : Expression)
  | not (operand : Expression)
  | complement (operand : Expression)
  | binary (operation : Operation) (left right : Expression)
  | and (left right : Expression)
  | or (left right : Expression)
  | choice (test success failure : Expression)
  | assign (name : Bytes) (operation : Option Operation) (value : Expression)
  /-- The text breaks a rule behind what could be read. -/
  | broken (before : Expression) (rule : String)
  deriving Repr

/-! ## Tokens -/

/-- What an expression is cut into. -/
inductive Token where
  | number (value : Int)
  | name (name : Bytes)
  | operation (operation : Operation)
  /-- An assignment, possibly with an operation. -/
  | assign (operation : Option Operation)
  | bang | tilde | doubleAnd | doubleOr | question | colon | open | close
  /-- A byte that starts no token. -/
  | unknown
  | finish
  /-- A rule has been broken before. -/
  | unreadable
  deriving Repr, DecidableEq

/-- The operators as they are written, longer ones first. -/
def operators : List (String × Token) :=
  [("<<=", .assign (some .shiftLeft)), (">>=", .assign (some .shiftRight)),
   ("<<", .operation .shiftLeft), (">>", .operation .shiftRight),
   ("<=", .operation .lessOrEqual), (">=", .operation .greaterOrEqual),
   ("==", .operation .equal), ("!=", .operation .notEqual), ("&&", .doubleAnd), ("||", .doubleOr),
   ("*=", .assign (some .multiply)), ("/=", .assign (some .divide)),
   ("%=", .assign (some .remainder)), ("+=", .assign (some .add)),
   ("-=", .assign (some .subtract)), ("&=", .assign (some .bitAnd)),
   ("^=", .assign (some .bitXor)), ("|=", .assign (some .bitOr)), ("=", .assign none),
   ("<", .operation .less), (">", .operation .greater), ("*", .operation .multiply),
   ("/", .operation .divide), ("%", .operation .remainder), ("+", .operation .add),
   ("-", .operation .subtract), ("&", .operation .bitAnd), ("^", .operation .bitXor),
   ("|", .operation .bitOr), ("!", .bang), ("~", .tilde), ("?", .question), (":", .colon),
   ("(", .open), (")", .close)]

/-- The token at the front, and what follows. -/
def scan (bytes : Bytes) : Token × Bytes :=
  match bytes.dropWhile fun b => Byte.isBlank b || b == Byte.newline with
  | [] => (.finish, [])
  | b :: rest =>
    if Byte.isDigit b then
      match Integer.magnitude? 0 (b :: rest) with
      | some (value, after) => (.number (Integer.clamp value), after)
      | none => (.unknown, rest)
    else if startsName b then
      let name := b :: rest.takeWhile continuesName
      (.name name, (b :: rest).drop name.length)
    else
      match operators.find? fun (text, _) => (Bytes.ofString text).isPrefixOf (b :: rest) with
      | some (text, token) => (token, (b :: rest).drop text.utf8ByteSize)
      | none => (.unknown, b :: rest)

/-! ## Reading -/

/-- Reading an expression: what is left of its text, until a rule is broken. -/
abbrev Reading := StateM (Option Bytes)

/-- The token at the front. -/
def peek : Reading Token := do return (← get).elim .unreadable fun rest => (scan rest).1

/-- Take the token at the front. -/
def next : Reading Token := do
  match ← get with
  | none => return .unreadable
  | some rest => do
    let (token, rest) := scan rest
    set (some rest)
    return token

/-- A rule is broken behind an expression. Nothing is read from now on. -/
def stop (rule : String) (before : Expression := .number 0) : Reading Expression := do
  set (none : Option Bytes)
  return .broken before rule

/-- Read a token that has to stand behind an expression. -/
def require (wanted : Token) (rule : String) (before : Expression) : Reading Expression := do
  let token ← next
  if token = wanted ∨ token = .unreadable then return before else stop rule before

/-- How strongly an operator binds, from the weakest on. -/
def Operation.level : Operation → Nat
  | .bitOr => 0
  | .bitXor => 1
  | .bitAnd => 2
  | .equal | .notEqual => 3
  | .less | .lessOrEqual | .greater | .greaterOrEqual => 4
  | .shiftLeft | .shiftRight => 5
  | .add | .subtract => 6
  | .multiply | .divide | .remainder => 7

/-- Read an operand; what stands in parentheses is read by `whole`. -/
def operand (whole : Reading Expression) : Nat → Reading Expression
  | 0 => stop "expecting primary"
  | fuel + 1 => do
    match ← next with
    | .number value => return .number value
    | .name name => return .named name
    | .open => require .close "expecting ')'" (← whole)
    | .operation .add => operand whole fuel
    | .operation .subtract => return .negative (← operand whole fuel)
    | .bang => return .not (← operand whole fuel)
    | .tilde => return .complement (← operand whole fuel)
    | _ => stop "expecting primary"

/-- Read operators that bind at least as strongly as a level, and the operands on their right. -/
def operations (operand : Reading Expression) : Nat → Nat → Expression → Reading Expression
  | 0, _, left => return left
  | fuel + 1, level, left => do
    match ← peek with
    | .operation operation =>
      if operation.level < level then return left
      else
        let _ ← next
        let first ← operand
        let right ← operations operand fuel (operation.level + 1) first
        operations operand fuel level (.binary operation left right)
    | _ => return left

/-- Read values that are joined by an operator, from the left. -/
def joined (separator : Token) (join : Expression → Expression → Expression)
    (part : Reading Expression) : Nat → Reading Expression
  | 0 => part
  | fuel + 1 => do
    let first ← part
    if (← peek) = separator then
      let _ ← next
      return join first (← joined separator join part fuel)
    else return first

/-- Read a condition, and the choice that may follow it. -/
def conditional (whole condition : Reading Expression) : Nat → Reading Expression
  | 0 => condition
  | fuel + 1 => do
    let test ← condition
    if (← peek) = .question then
      let _ ← next
      let success ← whole
      match ← next with
      | .colon => return .choice test success (← conditional whole condition fuel)
      | .unreadable => return .choice test success (.number 0)
      | _ => stop "expecting ':'" (.choice test success (.number 0))
    else return test

/-- The variable that an assignment at the front is made to, its operation, and what follows. -/
def target? (text : Bytes) : Option (Bytes × Option Operation × Bytes) :=
  match scan text with
  | (.name name, rest) =>
    match scan rest with
    | (.assign operation, rest) => some (name, operation, rest)
    | _ => none
  | _ => none

/-- Read an expression of bounded depth. -/
def expression : Nat → Reading Expression
  | 0 => stop "expecting primary"
  | fuel + 1 => do
    let whole := expression fuel
    match (← get).bind target? with
    | some (name, operation, rest) => do
      set (some rest)
      return .assign name operation (← whole)
    | none =>
      let operand := operand whole fuel
      let value : Reading Expression := do operations operand fuel 0 (← operand)
      conditional whole (joined .doubleOr .or (joined .doubleAnd .and value fuel) fuel) fuel

/-- The expression that a text writes. -/
def Expression.ofBytes (bytes : Bytes) : Expression :=
  let reading : Reading Expression := do
    require .finish "expecting EOF" (← expression (bytes.length + 2))
  (reading.run (some bytes)).1

/-! ## Values -/

/-- The value of a comparison. -/
def truth (condition : Bool) : Int := if condition then 1 else 0

/-- The value of an operation; none when something is divided by zero. -/
def Operation.apply (operation : Operation) (a b : Int) : Option Int :=
  let bits (f : BitVec 64 → BitVec 64 → BitVec 64) : Int :=
    (f (BitVec.ofInt 64 a) (BitVec.ofInt 64 b)).toInt
  let count := (BitVec.ofInt 64 b).toNat % 64
  match operation with
  | multiply => some (Integer.wrap (a * b))
  | divide => if b = 0 then none else some (Integer.wrap (Int.tdiv a b))
  | remainder => if b = 0 then none else some (Int.tmod a b)
  | add => some (Integer.wrap (a + b))
  | subtract => some (Integer.wrap (a - b))
  | shiftLeft => some (Integer.wrap (a * (1 <<< count : Nat)))
  | shiftRight => some (a >>> count)
  | less => some (truth (a < b))
  | lessOrEqual => some (truth (a ≤ b))
  | greater => some (truth (b < a))
  | greaterOrEqual => some (truth (b ≤ a))
  | equal => some (truth (a == b))
  | notEqual => some (truth (a != b))
  | bitAnd => some (bits (· &&& ·))
  | bitXor => some (bits (· ^^^ ·))
  | bitOr => some (bits (· ||| ·))

/-- The first rule that the text of an expression breaks. -/
def Expression.brokenRule? : Expression → Option String
  | number _ | named _ => none
  | negative operand | not operand | complement operand => operand.brokenRule?
  | binary _ left right | and left right | or left right => left.brokenRule? <|> right.brokenRule?
  | choice test success failure =>
    test.brokenRule? <|> success.brokenRule? <|> failure.brokenRule?
  | assign _ _ value => value.brokenRule?
  | broken before rule => before.brokenRule? <|> some rule

/-- How variables are read and written, and what is done where an expression is wrong. -/
structure Variables (m : Type → Type) where
  read : Bytes → m Int
  write : Bytes → Int → m Unit
  refuse : String → m Unit

namespace Expression

variable {m : Type → Type} [Monad m] (bindings : Variables m)

/-- The value of an operation. -/
def applied (operation : Operation) (a b : Int) : m Int := do
  match operation.apply a b with
  | some value => return value
  | none => do
    bindings.refuse "division by zero"
    return 0

/-- The value is not needed. -/
def passOver (expression : Expression) : m Unit :=
  expression.brokenRule?.forM bindings.refuse

/-- The value of an expression. -/
def value : Expression → m Int
  | number value => return value
  | named name => bindings.read name
  | negative operand => return Integer.wrap (-(← operand.value))
  | not operand => return truth ((← operand.value) == 0)
  | complement operand => return -(← operand.value) - 1
  | binary operation left right => do
    let a ← left.value
    let b ← right.value
    applied bindings operation a b
  | and left right => do
    if (← left.value) = 0 then
      passOver bindings right
      return 0
    else return truth ((← right.value) != 0)
  | or left right => do
    if (← left.value) ≠ 0 then
      passOver bindings right
      return 1
    else return truth ((← right.value) != 0)
  | choice test success failure => do
    if (← test.value) ≠ 0 then
      let result ← success.value
      passOver bindings failure
      return result
    else
      passOver bindings success
      failure.value
  | assign name operation right => do
    let b ← right.value
    let result ← match operation with
      | none => pure b
      | some operation => do
        let a ← bindings.read name
        applied bindings operation a b
    bindings.write name result
    return result
  | broken before rule => do
    let _ ← before.value
    bindings.refuse rule
    return 0

end Expression

end ModuleMapper.Shell.Arithmetic
