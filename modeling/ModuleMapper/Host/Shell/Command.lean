import ModuleMapper.Host.Process.Channel

/-!
# Commands — what a script is made of

  A script is a list of commands. Simple commands name a program and its arguments by terms. The
  others put commands together: in a pipeline, one after the other, under a condition, in a loop, or
  under a name.

  A term is made of parts: text, and what is to be put in when the term is used. Quoted parts are
  neither split into fields nor read as patterns.
-/

namespace ModuleMapper.Shell

/-- What is done for a parameter that has no value. -/
inductive Fallback where
  /-- Another value is used. -/
  | use
  /-- Another value is used, and kept. -/
  | assign
  /-- The script ends. -/
  | refuse
  /-- Another value is used for a parameter that has one. -/
  | replace
  deriving Repr, DecidableEq

mutual

/-- A part of a term. -/
inductive Part where
  | text (bytes : Bytes) (quoted : Bool)
  /-- A quotation starts here: there is a field, even an empty one. -/
  | mark
  | parameter (name : Bytes) (form : Form) (quoted : Bool)
  /-- The output of commands. -/
  | substitution (body : List Command) (quoted : Bool)
  /-- The value of an arithmetic expression. -/
  | arithmetic (expression : List Part) (quoted : Bool)

/-- What is put in for a parameter. -/
inductive Form where
  | value
  | length
  /-- Something else if it is missing; or also if it is empty. -/
  | otherwise (fallback : Fallback) (orEmpty : Bool) (term : List Part)
  /-- The value without the front, or the back, that matches a pattern. -/
  | trim (front longest : Bool) (pattern : List Part)
  /-- A form that nobody knows. -/
  | unknown

/-- Where a descriptor is redirected. -/
inductive Redirection where
  | file (descriptor : Nat) (opening : Opening) (target : List Part)
  /-- To what another descriptor leads to, or to nothing. -/
  | duplicate (descriptor : Nat) (target : List Part)
  /-- To a document that stands in the script, by its number. -/
  | document (descriptor : Nat) (number : Nat)

/-- A value for a variable. -/
inductive Assignment where
  | set (name : Bytes) (value : List Part)

/-- Commands for the words that match one of some patterns. -/
inductive Arm where
  | case (patterns : List (List Part)) (body : List Command)

/-- A command, with the line of the script that it starts on. -/
inductive Command where
  | simple (line : Nat) (assignments : List Assignment) (terms : List (List Part))
      (redirections : List Redirection)
  /-- Each command reads what the one before prints. -/
  | pipeline (commands : List Command)
  | negation (command : Command)
  /-- The second only if the first succeeds. -/
  | both (first second : Command)
  /-- The second only if the first fails. -/
  | either (first second : Command)
  | background (command : Command)
  | group (body : List Command)
  | subshell (body : List Command)
  | redirected (line : Nat) (command : Command) (redirections : List Redirection)
  | conditional (test : List Command) (success failure : List Command)
  /-- Repeated while the test succeeds, or until it does. -/
  | loop (awaited : Bool) (test body : List Command)
  /-- Repeated for each field of some terms. -/
  | iteration (line : Nat) (name : Bytes) (terms : List (List Part)) (body : List Command)
  | choice (line : Nat) (term : List Part) (arms : List Arm)
  | definition (name : Bytes) (body : Command)

end

/-- A word of a script. -/
abbrev Term := List Part

/-- The commands of a script. -/
abbrev Script := List Command

namespace Part

/-- The part is the list of all arguments, and nothing is done to it. -/
def isArguments : Part → Bool
  | parameter name .value _ => name == [Byte.commercialAt]
  | _ => false

end Part

namespace Term

/-- The text of a term without quotes, parameters and commands. -/
def bareText? : Term → Option Bytes
  | [.text bytes false] => some bytes
  | _ => none

end Term

/-! ## Names -/

/-- May a variable's name start with the byte? -/
def startsName (b : UInt8) : Bool :=
  Byte.isAlphanumeric b && !Byte.isDigit b || b == Byte.underscore

/-- May a variable's name go on with the byte? -/
def continuesName (b : UInt8) : Bool := Byte.isAlphanumeric b || b == Byte.underscore

/-- Is it the name of a variable? -/
def isName : Bytes → Bool
  | [] => false
  | b :: rest => startsName b && rest.all continuesName

/-- Split `name=value`. -/
def assignment? (bytes : Bytes) : Option (Bytes × Bytes) :=
  let name := bytes.takeWhile (· ≠ Byte.equals)
  match bytes.drop name.length with
  | _ :: value => if isName name then some (name, value) else none
  | [] => none

end ModuleMapper.Shell
