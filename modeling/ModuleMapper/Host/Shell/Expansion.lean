import ModuleMapper.Host.Shell.Arithmetic
import ModuleMapper.Host.Shell.Fields
import ModuleMapper.Host.Shell.Machine

/-!
# Expansion — what words stand for

  When a word is used, values take the places of parameters, of commands and of arithmetic
  expressions. Then the value is split into fields, and fields that are patterns give way to the paths
  that they stand for. Where one value is wanted, as in an assignment, nothing is split.

  How the output of commands is found is given from outside.
-/

namespace ModuleMapper.Shell.Expansion

open scoped Bytes
open Run

/-- How words are expanded. -/
structure Manner where
  /-- The output of commands. -/
  capture : Script → Run Bytes
  /-- Do arguments become fields of their own? -/
  separate : Bool
  /-- Is the value assigned, so that a tilde may also follow a colon? -/
  assigns : Bool := false

/-! ## Parameters -/

/-- The letters of the options, in the order in which they are shown. -/
def optionLetters : List Char :=
  ['u', 'b', 'a', 'C', 'E', 'V', 'v', 'x', 's', 'n', 'm', 'i', 'I', 'f', 'e']

/-- The number of the process that runs the script. -/
def processNumber : Nat := 4711

/-- The value of a parameter that has only one. -/
def parameter (name : Bytes) : Run (Option Bytes) := do
  let m ← get
  let number (n : Nat) : Option Bytes := some (Integer.toBytes n)
  match name.map Byte.char with
  | ['?'] => return number m.status
  | ['#'] => return number m.arguments.length
  | ['$'] => return number processNumber
  | ['!'] => return m.lastProcess.bind number
  | ['-'] =>
    return some (Bytes.ofString (String.ofList (optionLetters.filter m.options.contains)))
  | _ =>
    match Integer.ofPlainDigits? name with
    | some 0 => return some m.name
    | some (index + 1) => return m.arguments[index]?
    | none => valueOf name

/-- Is it the list of all arguments? -/
def isList (name : Bytes) : Bool := name == [Byte.commercialAt] || name == ("*" : Bytes)

/-- All arguments as one value. -/
def joinedArguments : Run Bytes := do
  let separator := (← separators).take 1
  return separator.intercalate (← get).arguments

/-- Do all arguments become fields of their own? -/
def Manner.separates (manner : Manner) (name : Bytes) (quoted : Bool) : Bool :=
  manner.separate && isList name && !(quoted && name == ("*" : Bytes))

/-- The value of a parameter, as one. -/
def wholeValue (name : Bytes) : Run (Option Bytes) := do
  if isList name then return some (← joinedArguments)
  else parameter name

/-- The pieces of a parameter. Nothing is put in for one that has no value. -/
def valuePieces (manner : Manner) (name : Bytes) (quoted : Bool) : Run (List Piece) := do
  if manner.separates name quoted then return Piece.ofArguments quoted (← get).arguments
  else return (← wholeValue name).elim [] (Piece.ofValue quoted)

/-- A parameter that has no value is used. -/
def refuseMissing {α : Type} (name : Bytes) : Run α :=
  fail (name ++ (": parameter not set" : Bytes))

/-- Refuse a parameter that has no value where that is not allowed. -/
def checkPresent (name : Bytes) (value : Option Bytes) : Run Unit := do
  if value.isNone && !isList name && (← hasOption 'u') then refuseMissing name

/-! ## Arithmetic -/

/-- How expressions read and write variables. -/
def bindings (text : Bytes) : Arithmetic.Variables Run where
  read name := do
    match ← valueOf name with
    | none => return 0
    | some value =>
      if value.all Integer.isSpace then return 0
      else
        match Integer.ofBytes? 0 value with
        | some number => return number
        | none => fail (("Illegal number: " : Bytes) ++ value)
  write name value := assign name (Integer.toBytes value)
  refuse cause :=
    fail (Bytes.ofString ("arithmetic expression: " ++ cause ++ ": \"") ++ text
      ++ [Byte.doubleQuote])

/-- The value of an expression. -/
def arithmetic (text : Bytes) : Run Bytes := do
  return Integer.toBytes (← (Arithmetic.Expression.ofBytes text).value (bindings text))

/-! ## Tildes -/

/-- The directory that a tilde and a name stand for. -/
def home? (name : Bytes) : Run (Option Bytes) := do
  if name = [] then valueOf "HOME"
  else if name = ("root" : Bytes) then return some "/root"
  else return none

/-- The pieces of text whose front may be a tilde. Its name ends before a slash, or with the text if
    nothing follows that. -/
def tilde (last splits : Bool) (text : Bytes) : Run (List Piece) := do
  match text with
  | [] => return []
  | b :: rest =>
    let name := rest.takeWhile (· ≠ Byte.slash)
    if b ≠ Byte.tilde || (name.length = rest.length && !last) then return Piece.ofText splits text
    else
      match ← home? name with
      | some directory =>
        return Piece.ofValue true directory ++ Piece.ofText splits (rest.drop name.length)
      | none => return Piece.ofText splits text

/-- The parts of a text between colons. -/
def betweenColons : Bytes → List Bytes
  | [] => [[]]
  | b :: rest =>
    match betweenColons rest with
    | first :: others => if b = Byte.colon then [] :: first :: others else (b :: first) :: others
    | [] => [[b]]

/-- The pieces of text in an assignment, where a tilde may also follow a colon. -/
def tildes (front last : Bool) : List Bytes → Run (List Piece)
  | [] => return []
  | [text] => if front then tilde last false text else return Piece.ofText false text
  | text :: others => do
    let before ←
      if front then tilde true false text else pure (Piece.ofText false text)
    return before ++ .byte Byte.colon false false :: (← tildes true last others)

/-! ## Words -/

/-- The output of commands without the ends of lines at its end. -/
def withoutFinalNewlines (output : Bytes) : Bytes :=
  (output.reverse.dropWhile (· == Byte.newline)).reverse

/-- Where text that is not quoted stands in a word. -/
structure Position where
  first : Bool
  last : Bool

/-- The pieces of text that is not quoted. -/
def bareText (manner : Manner) (splits : Bool) (position : Position) (text : Bytes) :
    Run (List Piece) :=
  if manner.assigns then tildes position.first position.last (betweenColons text)
  else if position.first then tilde position.last splits text
  else return Piece.ofText splits text

mutual

/-- The pieces of a part. Text that is not quoted may be split inside of another word. -/
def part (manner : Manner) (splits : Bool) (position : Position) : Part → Run (List Piece)
  | .text bytes true => return bytes.map fun b => .byte b true false
  | .text bytes false => bareText manner splits position bytes
  | .mark => return [.mark]
  | .substitution body quoted => do
    let output ← manner.capture body
    return Piece.ofValue quoted (withoutFinalNewlines (output.filter (· != Byte.nul)))
  | .arithmetic expression quoted => do
    let pieces ← parts { manner with separate := false, assigns := false } false false expression
    return Piece.ofValue quoted (← arithmetic (Piece.bytes pieces))
  | .parameter name form quoted => replacement manner name quoted form

/-- What is put in for a parameter. -/
def replacement (manner : Manner) (name : Bytes) (quoted : Bool) : Form → Run (List Piece)
  | .value => do
    checkPresent name (← wholeValue name)
    valuePieces manner name quoted
  | .length => do
    let value ← wholeValue name
    checkPresent name value
    return Piece.ofValue quoted (Integer.toBytes (value.getD []).length)
  | .otherwise fallback orEmpty term => do
    let value ← wholeValue name
    let usable := match value with
      | none => false
      | some value => !(orEmpty && value == [])
    match fallback, usable with
    | .replace, false => return []
    | .replace, true | .use, false => parts manner (!quoted) true term
    | .use, true | .assign, true | .refuse, true =>
      valuePieces manner name quoted
    | .assign, false => do
      let value := Piece.bytes (← parts { manner with separate := false } false true term)
      assign name value
      return Piece.ofValue quoted value
    | .refuse, false => do
      let text := Piece.bytes (← parts { manner with separate := false } false true term)
      let usual : Bytes := if orEmpty then "parameter not set or null" else "parameter not set"
      fail (name ++ (": " : Bytes) ++ if term.isEmpty then usual else text)
  | .trim front longest pattern => do
    let value ← wholeValue name
    checkPresent name value
    match value with
    | none => return []
    | some value => do
      let pieces ← parts { manner with separate := false } false true pattern
      let pattern := Pattern.ofGlyphs (Piece.glyphs pieces)
      if manner.separates name quoted then
        return Piece.ofArguments quoted (pattern.trimArguments front longest (← get).arguments)
      else return Piece.ofValue quoted (pattern.trim front longest value)
  | .unknown => fail "Bad substitution"

/-- The pieces of parts; the first of them may start with a tilde. -/
def parts (manner : Manner) (splits front : Bool) : List Part → Run (List Piece)
  | [] => return []
  | first :: others => do
    let before ← part manner splits ⟨front, others.isEmpty⟩ first
    return before ++ (← parts manner splits false others)

end

/-! ## Results -/

/-- The paths that a field stands for; the field itself if there are none. -/
def pathsOf (field : List Glyph) : Run (List Bytes) := do
  let itself := [field.map Glyph.byte]
  if !Pattern.isOpen field || (← hasOption 'f') then return itself
  else
    match Pattern.expand (← files) field with
    | [] => return itself
    | paths => return paths

/-- The fields of a term. -/
def fields (capture : Script → Run Bytes) (term : Term) : Run (List Bytes) := do
  let pieces ← parts { capture, separate := true } false true term
  let fields := Piece.fields (← separators) pieces
  return (← fields.mapM pathsOf).flatten

/-- The fields of terms. -/
def allFields (capture : Script → Run Bytes) (terms : List Term) : Run (List Bytes) := do
  return (← terms.mapM (fields capture)).flatten

/-- The one value of a term. -/
def value (capture : Script → Run Bytes) (term : Term) : Run Bytes := do
  return Piece.bytes (← parts { capture, separate := false } false true term)

/-- The one value of a term in an assignment. -/
def assignedValue (capture : Script → Run Bytes) (term : Term) : Run Bytes := do
  return Piece.bytes (← parts { capture, separate := false, assigns := true } false true term)

/-- What a document stands for. -/
def document (capture : Script → Run Bytes) (term : Term) : Run Bytes := do
  return Piece.bytes (← parts { capture, separate := false } false false term)

/-- The pattern that a term stands for. -/
def pattern (capture : Script → Run Bytes) (term : Term) : Run Pattern := do
  return Pattern.ofGlyphs (Piece.glyphs (← parts { capture, separate := false } false true term))

end ModuleMapper.Shell.Expansion
