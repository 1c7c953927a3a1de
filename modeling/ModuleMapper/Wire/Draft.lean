import ModuleMapper.Wire.Token

/-!
# Drafts — putting tokens together

  A draft is a block of which some tokens have been read, and `Draft.feed` is its step for one more.
  A semicolon keeps the block open only right before a newline; anywhere else it is a word.
-/

namespace ModuleMapper.Wire

/-- A block that is being put together. -/
structure Draft where
  /-- The messages whose line has ended. -/
  messages : List Message := []
  /-- The words of the message whose line has not. -/
  words : List Word := []
  /-- Was the last token a semicolon? -/
  marked : Bool := false
  deriving Repr, DecidableEq

namespace Draft

/-- The word that a semicolon is when it ends no line. -/
abbrev semicolon : Word := [Byte.semicolon]

/-- Nothing read yet. -/
def isEmpty (draft : Draft) : Bool :=
  draft.messages.isEmpty && draft.words.isEmpty && !draft.marked

/-- The words so far, the semicolon that turned out to be one included. -/
def settledWords (draft : Draft) : List Word :=
  if draft.marked then draft.words ++ [semicolon] else draft.words

/-- What one token makes of a draft: a draft still, or the block. -/
inductive Step where
  | open (draft : Draft)
  | closed (block : Block)
  deriving Repr, DecidableEq

/-- Add one token. -/
def feed (draft : Draft) : Token → Step
  | .newline =>
    let messages := draft.messages ++ [draft.words]
    if draft.marked then .open { messages } else .closed messages
  | .continuation => .open { draft with words := draft.settledWords, marked := true }
  | .word word => .open { draft with words := draft.settledWords ++ [word], marked := false }

end Draft

end ModuleMapper.Wire
