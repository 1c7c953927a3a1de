import ModuleMapper.Host.Shell.Command

/-!
# Shell tokens — operators, keywords and words

  A script is cut into tokens. A word that is a keyword is one only where a command may start, or
  where a command waits for it. Each token has a name by which a diagnostic calls it.
-/

namespace ModuleMapper.Shell

/-- What stands between commands. -/
inductive Operator where
  | semicolon | ampersand | doubleAmpersand | doublePipe | pipe
  | openParen | closeParen | doubleSemicolon
  deriving Repr, DecidableEq

namespace Operator

/-- How an operator is written. -/
def text : Operator → String
  | semicolon => ";"
  | ampersand => "&"
  | doubleAmpersand => "&&"
  | doublePipe => "||"
  | pipe => "|"
  | openParen => "("
  | closeParen => ")"
  | doubleSemicolon => ";;"

end Operator

/-- The words that build commands. -/
inductive Keyword where
  | bang | case | do | done | elif | else | esac | fi | for | if | in | then | until | while
  | openBrace | closeBrace
  deriving Repr, DecidableEq

namespace Keyword

/-- All keywords. -/
def all : List Keyword :=
  [.bang, .case, .do, .done, .elif, .else, .esac, .fi, .for, .if, .in, .then, .until, .while,
   .openBrace, .closeBrace]

/-- How a keyword is written. -/
def text : Keyword → String
  | bang => "!"
  | «case» => "case"
  | «do» => "do"
  | done => "done"
  | elif => "elif"
  | «else» => "else"
  | esac => "esac"
  | fi => "fi"
  | «for» => "for"
  | «if» => "if"
  | «in» => "in"
  | «then» => "then"
  | «until» => "until"
  | «while» => "while"
  | openBrace => "\x7b"
  | closeBrace => "\x7d"

/-- The keyword that a word is. -/
def ofBytes? (bytes : Bytes) : Option Keyword :=
  all.find? fun keyword => Bytes.ofString keyword.text == bytes

/-- Does the keyword end a list of commands? -/
def endsList : Keyword → Bool
  | «do» | done | elif | «else» | esac | fi | «then» | closeBrace => true
  | _ => false

end Keyword

/-- How a redirection is written, apart from its descriptor and its target. -/
inductive Redirector where
  | file (opening : Opening)
  | duplicate
  /-- A document that follows in the script; tabs at the front of its lines may be left out. -/
  | document (stripped : Bool)
  deriving Repr, DecidableEq

/-- What a script is cut into. -/
inductive Token where
  | word (term : Term)
  | keyword (keyword : Keyword)
  | operator (operator : Operator)
  | redirector (descriptor : Nat) (redirector : Redirector)
  | newline
  /-- The end of the script. -/
  | finish

namespace Token

/-- What diagnostics call a token. -/
def name : Token → String
  | word _ => "word"
  | keyword k => "\"" ++ k.text ++ "\""
  | operator o => "\"" ++ o.text ++ "\""
  | redirector _ _ => "redirection"
  | newline => "newline"
  | finish => "end of file"

/-- A word that is a keyword, taken as one. -/
def asKeyword : Token → Token
  | word term =>
    match term.bareText?.bind Keyword.ofBytes? with
    | some k => .keyword k
    | none => .word term
  | token => token

/-- Does the token end a list of commands that others enclose? -/
def endsList : Token → Bool
  | keyword k => k.endsList
  | operator .closeParen | operator .doubleSemicolon | finish => true
  | _ => false

end Token

end ModuleMapper.Shell
