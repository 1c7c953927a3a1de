import ModuleMapper.Wire.Block

/-!
# Requests — what the compiler asks

  The tag of a message says what is asked, and how many arguments that takes; arguments beyond these
  are ignored. A known tag with too few is malformed, any other tag is unknown, and a message without
  words is no request at all.
-/

namespace ModuleMapper

/-- The kinds of request that are understood. -/
inductive RequestKind where
  | hello
  | repository
  | moduleExport
  | moduleImport
  deriving Repr, DecidableEq

namespace RequestKind

/-- The tag of a kind. -/
def tag : RequestKind → String
  | hello => "HELLO"
  | repository => "MODULE-REPO"
  | moduleExport => "MODULE-EXPORT"
  | moduleImport => "MODULE-IMPORT"

/-- Every kind, once. -/
def all : List RequestKind := [hello, repository, moduleExport, moduleImport]

/-- The kind that a word is the tag of. -/
def ofTag? (word : Word) : Option RequestKind := all.find? fun kind => word == Bytes.ofString kind.tag

end RequestKind

/-- A request. -/
inductive Request where
  /-- The handshake: a protocol version, and what the compiler says of itself. -/
  | hello (version compiler build : Word)
  /-- Where is the repository? -/
  | repository
  /-- Where will the interface of a module be written? -/
  | moduleExport (name : Word)
  /-- Where is the interface of a module, brought up to date if need be? -/
  | moduleImport (name : Word)
  /-- A known tag without its arguments. -/
  | malformed (kind : RequestKind)
  | unknown (tag : Word)
  deriving Repr, DecidableEq

namespace Request

/-- The request of a known kind with the given arguments. -/
def ofKind (kind : RequestKind) (arguments : List Word) : Request :=
  match kind, arguments with
  | .hello, version :: compiler :: build :: _ => .hello version compiler build
  | .repository, _ => .repository
  | .moduleExport, name :: _ => .moduleExport name
  | .moduleImport, name :: _ => .moduleImport name
  | kind, _ => .malformed kind

/-- The request that a message makes. -/
def ofMessage? : Message → Option Request
  | [] => none
  | tag :: arguments =>
    match RequestKind.ofTag? tag with
    | some kind => some (ofKind kind arguments)
    | none => some (.unknown tag)

/-- The kind of a request, if it is one that is understood. -/
def kind? : Request → Option RequestKind
  | hello .. => some .hello
  | repository => some .repository
  | moduleExport _ => some .moduleExport
  | moduleImport _ => some .moduleImport
  | malformed kind => some kind
  | unknown _ => none

end Request

end ModuleMapper
