import ModuleMapper.Host.Shell.Source

/-!
# Scanning — the words of a script and their parts

  A word ends before a blank, an end of line or an operator. Between quotes and inside of braces other
  bytes end it, and some of them lose their meaning. A scan reads the parts of a word up to that end.

  A word may hold commands, whose output it stands for. How these are read is given from outside.
-/

namespace ModuleMapper.Shell

open scoped Bytes

/-- How far a list of commands goes. -/
inductive Extent where
  /-- To the end of a line. -/
  | line
  /-- To a token that ends a list, after at least one command. -/
  | filled
  /-- To a token that ends a list. -/
  | block
  deriving Repr, DecidableEq

/-- The readers for what may stand inside of something else. -/
structure Inner where
  list : Extent → Reading Script
  command : Reading Command
  /-- Commands up to a closing parenthesis. -/
  enclosed : Reading Script

/-- Where the parts of a word stand. -/
inductive Context where
  /-- Between blanks and operators. -/
  | bare
  /-- Behind `<<`: parameters and commands stand for themselves. -/
  | documentMark
  | quotes
  /-- Between the braces of a parameter. -/
  | braces (quoted : Bool)
  /-- Between quotes inside of quoted braces. -/
  | innerQuotes
  | document
  /-- In an arithmetic expression, inside of so many parentheses. -/
  | expression (depth : Nat)
  deriving Repr, DecidableEq

namespace Context

/-- Is what stands there quoted? -/
def quoted : Context → Bool
  | bare | documentMark => false
  | braces quoted => quoted
  | quotes | innerQuotes | document | expression _ => true

/-- Does a byte that is not part of the word end it? -/
def stopsBefore (context : Context) (b : UInt8) : Bool :=
  match context with
  | bare | documentMark => Byte.isBlank b || b == Byte.newline || Byte.isOneOf b "<>();&|"
  | _ => false

/-- Does the byte close the word? -/
def closedBy (context : Context) (b : UInt8) : Bool :=
  match context with
  | quotes | innerQuotes => b == Byte.doubleQuote
  | braces _ => b == Byte.rightBrace
  | _ => false

/-- Do quotes start a part here? -/
def opensQuotes : Context → Bool
  | bare | documentMark | braces _ => true
  | _ => false

/-- Does a backslash take the meaning from the byte behind it, and vanish? -/
def unescapes (context : Context) (b : UInt8) : Bool :=
  !context.quoted || b == Byte.backslash || b == Byte.backquote || b == Byte.dollar
    || (b == Byte.doubleQuote && context != document)
    || (b == Byte.rightBrace && context == braces true)

end Context

/-! ## Parts -/

/-- A part whose text stands in reverse order. -/
def Part.reversed : Part → Part
  | .text bytes quoted => .text bytes.reverse quoted
  | part => part

/-- The parts of a word that is being read, the last one first. Text stands in reverse order. -/
abbrev TermDraft := List Part

namespace TermDraft

/-- Add a byte. -/
def addByte (b : UInt8) (quoted : Bool) : TermDraft → TermDraft
  | .text bytes same :: others =>
    if same = quoted then .text (b :: bytes) quoted :: others
    else .text [b] quoted :: .text bytes same :: others
  | draft => .text [b] quoted :: draft

/-- Add parts. -/
def addParts (parts : List Part) (draft : TermDraft) : TermDraft :=
  (parts.map Part.reversed).reverse ++ draft

/-- The parts in order. -/
def finish (draft : TermDraft) : Term := draft.reverse.map Part.reversed

end TermDraft

/-- The names of the parameters that no script can set. -/
def isSpecialName (b : UInt8) : Bool := Byte.isOneOf b "$?#!-*@" || Byte.isDigit b

namespace Reading

/-- Go on behind the next byte. An end of line that stands for a name or a form does not count. -/
def skipUncounted : Reading Unit := do
  let line := (← get).line
  skip
  modify fun source => { source with line }

/-- A parameter in braces that no form fits: the rest up to the brace is skipped. -/
def unknownForm (scan : Context → Reading Term) (quoted : Bool) : Reading Part := do
  let _ ← scan (.braces quoted)
  return .parameter [] .unknown quoted

/-- What is put in for a parameter behind a possible colon. -/
def fallbackForm (scan : Context → Reading Term) (name : Bytes) (quoted orEmpty : Bool) :
    Reading Part := do
  let next ← peek
  skipUncounted
  let form (fallback : Fallback) : Reading Part := do
    let term ← scan (.braces quoted)
    return .parameter name (.otherwise fallback orEmpty term) quoted
  match next.map Byte.char with
  | some '-' => form .use
  | some '=' => form .assign
  | some '?' => form .refuse
  | some '+' => form .replace
  | _ => unknownForm scan quoted

/-- What stands in braces behind the name of a parameter. -/
def formOf (scan : Context → Reading Term) (name : Bytes) (quoted : Bool) : Reading Part := do
  let trim (front : Bool) (char : Char) : Reading Part := do
    skip
    let longest ← skipIf char
    let pattern ← scan (.braces false)
    return .parameter name (.trim front longest pattern) quoted
  match (← peek).map Byte.char with
  | some '\x7d' => do
    skip
    return .parameter name .value quoted
  | some ':' => do
    skip
    fallbackForm scan name quoted true
  | some '%' => trim false '%'
  | some '#' => trim true '#'
  | _ => fallbackForm scan name quoted false

/-- The length of a parameter's value. -/
def lengthOf (scan : Context → Reading Term) (name : Bytes) (quoted : Bool) : Reading Part := do
  if ← skipIf '\x7d' then return .parameter name .length quoted
  else unknownForm scan quoted

/-- The name of a variable, or digits. -/
def takeName (b : UInt8) : Reading Bytes :=
  takeWhile (if startsName b then continuesName else Byte.isDigit)

/-- What stands in braces behind a number sign. -/
def numberSign (scan : Context → Reading Term) (quoted : Bool) : Reading Part := do
  let sign : Bytes := [Byte.hash]
  match ← peek with
  | none => unknownForm scan quoted
  | some b =>
    if continuesName b then
      let name ← takeName b
      lengthOf scan name quoted
    else
      let before ← get
      skip
      if b != Byte.rightBrace && (← nextIs '\x7d') then
        if isSpecialName b then lengthOf scan [b] quoted else unknownForm scan quoted
      else
        set before
        formOf scan sign quoted

/-- A parameter in braces. -/
def braced (scan : Context → Reading Term) (quoted : Bool) : Reading Part := do
  match ← peek with
  | none => unknownForm scan quoted
  | some b =>
    if continuesName b then
      let name ← takeName b
      formOf scan name quoted
    else if b = Byte.rightBrace then unknownForm scan quoted
    else
      skipUncounted
      if b = Byte.hash then numberSign scan quoted
      else if isSpecialName b then formOf scan [b] quoted
      else unknownForm scan quoted

/-- What a dollar sign starts, if it does not stand for itself. -/
def reference? (inner : Inner) (scan : Context → Reading Term) (quoted : Bool) :
    Reading (Option Part) := do
  match ← peek with
  | none => return none
  | some b =>
    if b = Byte.leftParenthesis then
      skip
      if ← skipIf '(' then return some (.arithmetic (← scan (.expression 0)) quoted)
      else return some (.substitution (← withOpen none inner.enclosed) quoted)
    else if b = Byte.leftBrace then
      skip
      return some (← braced scan quoted)
    else if startsName b then return some (.parameter (← takeWhile continuesName) .value quoted)
    else if isSpecialName b then
      skip
      return some (.parameter [b] .value quoted)
    else return none

/-- The commands between backquotes, where a backslash protects some bytes. -/
def backquoted (quoted : Bool) : Reading Bytes := do
  let rec go : Nat → Bytes → Reading Bytes
    | 0, _ => fail "EOF in backquote substitution"
    | fuel + 1, taken => do
      match ← peek with
      | none => fail "EOF in backquote substitution"
      | some b =>
        skip
        if b = Byte.backquote then return taken.reverse
        else if b = Byte.backslash then
          match ← peekRaw with
          | none => fail "EOF in backquote substitution"
          | some c =>
            skip
            let vanishes := c == Byte.backslash || c == Byte.backquote || c == Byte.dollar
              || (quoted && c == Byte.doubleQuote)
            go fuel (if vanishes then c :: taken else c :: b :: taken)
        else go fuel (b :: taken)
  go ((← get).bound + 1) []

/-- The script, or the document, ends where a word should go on. -/
def checkEnd (context : Context) : Reading Unit := do
  let unclosed := if (← get).open?.isSome then "Missing '\x7d'" else "Unterminated quoted string"
  match context with
  | .bare | .documentMark | .document => pure ()
  | .quotes | .innerQuotes | .braces true => fail unclosed
  | .braces false => fail "Missing '\x7d'"
  | .expression _ => fail "Missing '))'"

/-- Read the parts of a word, behind those that have been read. -/
def scan (inner : Inner) : Nat → Context → TermDraft → Reading Term
  | 0, _, draft => pure draft.finish
  | fuel + 1, context, draft => do
    let quoted := context.quoted
    let reread (context : Context) : Reading Term := scan inner fuel context []
    match ← peek with
    | none => do
      checkEnd context
      return draft.finish
    | some b =>
      if context.stopsBefore b then return draft.finish
      else
        skip
        if context.closedBy b then return draft.finish
        else if b = Byte.newline then
          let draft := draft.addByte b quoted
          if ← startLine then
            checkEnd context
            return draft.finish
          else scan inner fuel context draft
        else if b = Byte.quote && !quoted then
          match ← takeThrough Byte.quote with
          | none => fail "Unterminated quoted string"
          | some text => scan inner fuel context (draft.addParts [.mark, .text text true])
        else if b = Byte.doubleQuote && context.opensQuotes then
          if quoted then
            let inside ← reread .innerQuotes
            scan inner fuel context (draft.addParts inside)
          else
            let inside ← reread .quotes
            let alone := match inside with
              | [part] => part.isArguments
              | _ => false
            scan inner fuel context ((if alone then draft else draft.addParts [.mark]).addParts inside)
        else if b = Byte.backslash then
          match ← peekRaw with
          | none => scan inner fuel context (draft.addByte b true)
          | some c =>
            skip
            if context.unescapes c then scan inner fuel context (draft.addByte c true)
            else scan inner fuel context ((draft.addByte b true).addByte c true)
        else if b = Byte.dollar && context != .documentMark then
          match ← reference? inner reread quoted with
          | some part => scan inner fuel context (draft.addParts [part])
          | none => scan inner fuel context (draft.addByte b quoted)
        else if b = Byte.backquote && context != .documentMark then
          let text ← backquoted quoted
          let body ← within text 1 (inner.list .block)
          scan inner fuel context (draft.addParts [.substitution body quoted])
        else
          match context, Byte.char b with
          | .expression depth, '(' =>
            scan inner fuel (.expression (depth + 1)) (draft.addByte b true)
          | .expression (depth + 1), ')' =>
            scan inner fuel (.expression depth) (draft.addByte b true)
          | .expression 0, ')' => do
            if ← skipIf ')' then return draft.finish
            else scan inner fuel context (draft.addByte b true)
          | _, _ => scan inner fuel context (draft.addByte b quoted)

/-- Read a word. -/
def term (inner : Inner) (context : Context) : Reading Term := do
  scan inner ((← get).bound + 1) context []

/-! ## Documents -/

/-- The lines of a document that is taken as it stands, behind those that have been taken. -/
def plainLines : Nat → List Bytes → Reading Bytes
  | 0, taken => return taken.reverse.flatten
  | fuel + 1, taken => do
    if ← startLine then return taken.reverse.flatten
    else
      let rest := (← get).rest
      match ← takeThrough Byte.newline with
      | some line => plainLines fuel ((line ++ [Byte.newline]) :: taken)
      | none => return (rest :: taken).reverse.flatten

/-- The parts of the document that is open. -/
def documentBody (inner : Inner) (expands : Bool) : Reading Term := do
  if !expands then return [.text (← plainLines ((← get).bound + 1) []) true]
  else if ← startLine then return []
  else term inner .document

/-- Read a document. -/
def readDocument (inner : Inner) (document : PendingDocument) : Reading Unit := do
  let parts ← withOpen (some document) (documentBody inner document.expands)
  modify fun source => { source with documents := source.documents ++ [(document.number, parts)] }

/-- Read the documents that start here. -/
def readDocuments (inner : Inner) : Reading Unit := do
  let pending := (← get).pending
  modify fun source => { source with pending := [] }
  pending.forM (readDocument inner)

end Reading

end ModuleMapper.Shell
