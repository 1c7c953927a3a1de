import ModuleMapper.Host.Shell.Scanner

/-!
# Grammar — how tokens make commands

  A script is read one line of commands at a time, and each line is carried out before the next is
  read. Commands may hold lists of commands, each up to a token that ends it. What stands inside is
  read by the same rules; how deep this goes is bounded.
-/

namespace ModuleMapper.Shell

open scoped Bytes

namespace Reading

variable (inner : Inner)

/-! ## Tokens -/

/-- Go on behind blanks and a comment. -/
def skipBlanks : Reading Unit := do
  let _ ← takeWhile Byte.isBlank
  if ← nextIs '#' then
    modify fun source => { source with rest := source.rest.dropWhile (· ≠ Byte.newline) }

/-- The operator that a character starts. -/
def operator? : Char → Reading (Option Operator)
  | '&' => do
    skip
    return some (if ← skipIf '&' then .doubleAmpersand else .ampersand)
  | '|' => do
    skip
    return some (if ← skipIf '|' then .doublePipe else .pipe)
  | ';' => do
    skip
    return some (if ← skipIf ';' then .doubleSemicolon else .semicolon)
  | '(' => do
    skip
    return some .openParen
  | ')' => do
    skip
    return some .closeParen
  | _ => return none

/-- What a `<` or `>` starts, with the descriptor that it stands for by itself. -/
def redirector : Reading (Nat × Redirector) := do
  if ← skipIf '>' then
    if ← skipIf '>' then return (1, .file .append)
    else if ← skipIf '|' then return (1, .file .overwrite)
    else if ← skipIf '&' then return (1, .duplicate)
    else return (1, .file .write)
  else
    skip
    if ← skipIf '<' then return (0, .document (← skipIf '-'))
    else if ← skipIf '&' then return (0, .duplicate)
    else if ← skipIf '>' then return (0, .file .readWrite)
    else return (0, .file .read)

/-- The descriptor that is written before a `<` or `>`, if a word can be one. -/
def descriptor? : Term → Option (Option Nat)
  | [] => some none
  | [.text [b] false] => if Byte.isDigit b then some (some (b - Byte.digitZero).toNat) else none
  | _ => none

/-- Read a word, or a redirection. -/
def wordToken (context : Context) : Reading Token := do
  let word ← term inner context
  let angle ← if ← nextIs '<' then pure true else nextIs '>'
  match angle, descriptor? word with
  | true, some written => do
    let (usual, redirector) ← redirector
    return .redirector (written.getD usual) redirector
  | _, _ => return .word word

/-- Read a token that was not held back. -/
def freshToken (context : Context) : Reading Token := do
  skipBlanks
  match ← peek with
  | none => return .finish
  | some b =>
    if b = Byte.newline then
      skip
      return .newline
    else
      match ← operator? (Byte.char b) with
      | some operator => return .operator operator
      | none => wordToken inner context

/-- Read a token where no line may end, so that documents have to wait. -/
def midToken (context : Context) : Reading Token := do
  match (← get).held with
  | some token => do
    modify fun source => { source with held := none }
    return token
  | none => freshToken inner context

/-- Read a token, and the documents that start behind it. -/
def token (context : Context) : Reading Token := do
  let token ← midToken inner context
  match token with
  | .newline | .finish => readDocuments inner
  | _ => pure ()
  return token

/-- Read the next token that does not end a line. -/
def tokenBeyondLines : Nat → Reading Token
  | 0 => return .finish
  | fuel + 1 => do
    match ← token inner .bare with
    | .newline => tokenBeyondLines fuel
    | token => return token

/-- Read a token where a keyword may stand. -/
def keywordToken (beyondLines : Bool) : Reading Token := do
  let token ←
    if beyondLines then tokenBeyondLines inner ((← get).bound + 2) else token inner .bare
  return token.asKeyword

/-- How often the text of one alias may start with another. -/
def maxAliases : Nat := 100

/-- Read a token where no keyword can stand. -/
def plainToken : Reading Token := token inner .bare

/-- Read a token that may be an alias, which gives way to its text. Elsewhere this may be so only
    behind the text of another. -/
def aliasToken (read : Reading Token) (anyway : Bool) : Nat → Reading Token
  | 0 => read
  | fuel + 1 => do
    let _ ← leaveAliases
    let token ← read
    let passedOn ← leaveAliases
    match token with
    | .word term =>
      match term.bareText? with
      | none => return token
      | some name =>
        let text? ← if anyway || passedOn then alias? name else pure none
        match text? with
        | none => return token
        | some text => do
          expandAlias name text
          aliasToken read anyway fuel
    | _ => return token

/-- Read a token where the name of a command may stand. -/
def commandToken (beyondLines : Bool) : Reading Token :=
  aliasToken (keywordToken inner beyondLines) true maxAliases

/-- Read a token that has to be the given keyword. -/
def expect (keyword : Keyword) (beyondLines : Bool := false) : Reading Unit := do
  let token ← keywordToken inner beyondLines
  match token with
  | .keyword found => if found = keyword then pure () else unexpected token (some (.keyword keyword))
  | _ => unexpected token (some (.keyword keyword))

/-! ## Redirections -/

/-- The text of a word, apart from its quotes. -/
def plainText (term : Term) : Bytes :=
  term.flatMap fun part =>
    match part with
    | .text bytes _ => bytes
    | _ => []

/-- Is nothing of the word quoted? -/
def isUnquoted (term : Term) : Bool :=
  term.all fun part =>
    match part with
    | .text _ quoted => !quoted
    | _ => false

/-- Read the word behind a redirector. -/
def target (context : Context) : Reading Term := do
  match ← midToken inner context with
  | .word term => return term
  | token => unexpected token none

/-- Read the rest of a redirection. -/
def redirection (descriptor : Nat) : Redirector → Reading Redirection
  | .file opening => return .file descriptor opening (← target inner .bare)
  | .duplicate => return .duplicate descriptor (← target inner .bare)
  | .document stripped => do
    let word ← target inner .documentMark
    let number := (← get).nextDocument
    let document : PendingDocument :=
      { number, mark := plainText word, stripped, expands := isUnquoted word }
    modify fun source =>
      { source with nextDocument := number + 1, pending := source.pending ++ [document] }
    return .document descriptor number

/-- Read the redirections behind a command. -/
def redirections : Nat → List Redirection → Reading (List Redirection)
  | 0, read => return read
  | fuel + 1, read => do
    match ← keywordToken inner false with
    | .redirector descriptor redirector => do
      let next ← redirection inner descriptor redirector
      redirections fuel (read ++ [next])
    | token => do
      hold token
      return read

/-! ## Simple commands -/

/-- The assignment that a word is. -/
def assignment? : Term → Option Assignment
  | .text bytes false :: others =>
    match Shell.assignment? bytes with
    | some (name, value) => some (.set name (if value = [] then others else .text value false :: others))
    | none => none
  | _ => none

/-- The commands of the shell that no function can replace. -/
def specialNames : List String :=
  [".", ":", "break", "continue", "eval", "exec", "exit", "export", "local", "readonly", "return",
   "set", "shift", "times", "trap", "unset"]

/-- The rest of a definition, behind the opening parenthesis. -/
def definition (word : Term) : Reading Command := do
  match ← midToken inner .bare with
  | .operator .closeParen => do
    match word.bareText? with
    | some name =>
      if !isName name || specialNames.any (Bytes.ofString · == name) then fail "Bad function name"
      else
        let first ← keywordToken inner true
        hold first
        return .definition name (← inner.command)
    | none => fail "Bad function name"
  | token => unexpected token (some (.operator .closeParen))

/-- Read the rest of a simple command. -/
def simple (line : Nat) : Nat → List Assignment → List Term → List Redirection → Reading Command
  | 0, assignments, terms, redirections =>
    return .simple line assignments terms redirections
  | fuel + 1, assignments, terms, redirections => do
    let aliased := terms.isEmpty && !(assignments.isEmpty && redirections.isEmpty)
    match ← aliasToken (plainToken inner) aliased maxAliases with
    | .word term =>
      match terms, assignment? term with
      | [], some assignment => simple line fuel (assignments ++ [assignment]) [] redirections
      | _, _ => simple line fuel assignments (terms ++ [term]) redirections
    | .redirector descriptor redirector => do
      let next ← redirection inner descriptor redirector
      simple line fuel assignments terms (redirections ++ [next])
    | .operator .openParen =>
      match assignments, terms, redirections with
      | [], [word], [] => definition inner word
      | _, _, _ => do
        hold (.operator .openParen)
        return .simple line assignments terms redirections
    | token => do
      hold token
      return .simple line assignments terms redirections

/-! ## Commands that hold others -/

/-- The commands behind `then`, and the other branches. -/
def branches : Nat → Reading Command
  | 0 => fail "Too many branches"
  | fuel + 1 => do
    let test ← inner.list .filled
    expect inner .then
    let success ← inner.list .filled
    match ← keywordToken inner false with
    | .keyword .elif => return .conditional test success [← branches fuel]
    | .keyword .else => return .conditional test success (← inner.list .filled)
    | token => do
      hold token
      return .conditional test success []

/-- The words of a loop. -/
def items : Nat → List Term → Reading (List Term)
  | 0, read => return read
  | fuel + 1, read => do
    match ← midToken inner .bare with
    | .word term => items fuel (read ++ [term])
    | .newline | .operator .semicolon => return read
    | token => unexpected token none

/-- A loop over words, behind `for`. -/
def iteration (line : Nat) : Reading Command := do
  let name? := match ← midToken inner .bare with
    | .word term => term.bareText?.filter isName
    | _ => none
  match name? with
  | none => fail "Bad for loop variable"
  | some name => do
    let terms ← match ← keywordToken inner true with
      | .keyword .in => items inner ((← get).bound + 2) []
      | .operator .semicolon => pure [[.parameter [Byte.commercialAt] .value true]]
      | token => do
        hold token
        pure [[.parameter [Byte.commercialAt] .value true]]
    expect inner .do true
    return .iteration line name terms (← inner.list .filled)

/-- The patterns of an arm, the first token of which has been read. -/
def patterns : Nat → Token → List Term → Reading (List Term)
  | 0, _, read => return read
  | fuel + 1, first, read => do
    let word := match first with
      | .word term => term
      | .keyword keyword => [.text keyword.text false]
      | _ => []
    match ← midToken inner .bare with
    | .operator .pipe => patterns fuel (← midToken inner .bare) (read ++ [word])
    | .operator .closeParen => return read ++ [word]
    | token => unexpected token (some (.operator .closeParen))

/-- The arms of a choice. -/
def arms : Nat → List Arm → Reading (List Arm)
  | 0, read => return read
  | fuel + 1, read => do
    match ← keywordToken inner true with
    | .keyword .esac => return read
    | token => do
      let first ← match token with
        | .operator .openParen => midToken inner .bare
        | token => pure token
      let patterns ← patterns inner ((← get).bound + 2) first []
      let body ← inner.list .block
      let read := read ++ [.case patterns body]
      match ← keywordToken inner true with
      | .keyword .esac => return read
      | .operator .doubleSemicolon => arms fuel read
      | token => unexpected token (some (.operator .doubleSemicolon))

/-- A choice, behind `case`. -/
def choice (line : Nat) : Reading Command := do
  match ← midToken inner .bare with
  | .word term => do
    expect inner .in true
    return .choice line term (← arms inner ((← get).bound + 2) [])
  | token => unexpected token (some (.word []))

/-- A command with the redirections behind it. -/
def withRedirections (line : Nat) (command : Command) : Reading Command := do
  match ← redirections inner ((← get).bound + 2) [] with
  | [] => return command
  | redirections => return .redirected line command redirections

/-- Read a command. -/
def command : Reading Command := do
  let line := (← get).line
  match ← commandToken inner false with
  | .keyword .if => do
    let command ← branches inner ((← get).bound + 2)
    expect inner .fi
    withRedirections inner line command
  | .keyword .while => awaiting line false
  | .keyword .until => awaiting line true
  | .keyword .for => do
    let command ← iteration inner line
    expect inner .done
    withRedirections inner line command
  | .keyword .case => do
    let command ← choice inner line
    withRedirections inner line command
  | .keyword .openBrace => do
    let body ← inner.list .filled
    expect inner .closeBrace
    withRedirections inner line (.group body)
  | .operator .openParen => do
    let body ← inner.list .filled
    expectClosed
    withRedirections inner line (.subshell body)
  | token@(.word _) | token@(.redirector _ _) => do
    let line := (← get).line
    hold token
    simple inner line ((← get).bound + 2) [] [] []
  | token => unexpected token none
where
  /-- A subshell ends here. -/
  expectClosed : Reading Unit := do
    match ← plainToken inner with
    | .operator .closeParen => pure ()
    | token => unexpected token (some (.operator .closeParen))
  /-- A loop that waits for its test. -/
  awaiting (line : Nat) (awaited : Bool) : Reading Command := do
    let test ← inner.list .filled
    expect inner .do
    let body ← inner.list .filled
    expect inner .done
    withRedirections inner line (.loop awaited test body)

/-! ## Lists -/

/-- The commands of a pipeline behind its first. -/
def piped : Nat → List Command → Reading (List Command)
  | 0, read => return read
  | fuel + 1, read => do
    match ← plainToken inner with
    | .operator .pipe => do
      hold (← keywordToken inner true)
      let next ← command inner
      piped fuel (read ++ [next])
    | token => do
      hold token
      return read

/-- Read a pipeline. -/
def pipeline : Reading Command := do
  let first ← keywordToken inner false
  let negated := match first with
    | .keyword .bang => true
    | _ => false
  if negated then hold (← keywordToken inner false) else hold first
  let first ← command inner
  let whole ← match ← piped inner ((← get).bound + 2) [] with
    | [] => pure first
    | others => pure (.pipeline (first :: others))
  return if negated then .negation whole else whole

/-- The pipelines behind the first, joined by conditions. -/
def joined : Nat → Command → Reading Command
  | 0, read => return read
  | fuel + 1, read => do
    match ← plainToken inner with
    | .operator .doubleAmpersand => do
      hold (← keywordToken inner true)
      joined fuel (.both read (← pipeline inner))
    | .operator .doublePipe => do
      hold (← keywordToken inner true)
      joined fuel (.either read (← pipeline inner))
    | token => do
      hold token
      return read

/-- Read pipelines that are joined by conditions. -/
def conditions : Reading Command := do
  let first ← pipeline inner
  joined inner ((← get).bound + 2) first

/-- Read the commands of a list. -/
def list (extent : Extent) : Nat → Bool → List Command → Reading Script
  | 0, _, read => return read
  | fuel + 1, mayEnd, read => do
    match ← keywordToken inner (extent != .line) with
    | .newline => return read
    | .finish => do
      hold .finish
      return read
    | token => do
      hold token
      if mayEnd && extent != .line && token.endsList then return read
      else
        let next ← conditions inner
        match ← plainToken inner with
        | .operator .ampersand => list extent fuel true (read ++ [.background next])
        | .operator .semicolon => list extent fuel true (read ++ [next])
        | .newline => do
          hold .newline
          list extent fuel true (read ++ [next])
        | .finish => do
          hold .finish
          return read ++ [next]
        | token =>
          if extent = .line then unexpected token none
          else
            hold token
            return read ++ [next]

end Reading

namespace Inner

/-- The readers for so many levels of commands inside of each other. -/
def ofDepth : Nat → Inner
  | 0 =>
    { list := fun _ => Reading.fail "Commands too deep"
      command := Reading.fail "Commands too deep"
      enclosed := Reading.fail "Commands too deep" }
  | depth + 1 =>
    let list (extent : Extent) : Reading Script := do
      Reading.list (ofDepth depth) extent ((← get).bound + 2) (extent == .block) []
    { list
      command := do Reading.command (ofDepth depth)
      enclosed := do
        let outer := (← get).pending
        modify fun source => { source with pending := [] }
        let body ← list .block
        match ← Reading.plainToken (ofDepth depth) with
        | .operator .closeParen => do
          modify fun source => { source with pending := outer }
          return body
        | token => Reading.unexpected token (some (.operator .closeParen)) }

end Inner

/-- How deep commands may stand inside of each other. -/
def maxDepth : Nat := 1000

/-- Read all of a text as a document. -/
def Reading.alone : Reading Term := Reading.term (Inner.ofDepth maxDepth) .document

/-- Read a line of commands; none at the end of the script. -/
def Reading.line : Reading (Option Script) := do
  let inner := Inner.ofDepth maxDepth
  let commands ← inner.list .line
  match commands, (← get).held with
  | [], some .finish => return none
  | _, _ => return some commands

end ModuleMapper.Shell
