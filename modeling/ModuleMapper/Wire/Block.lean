import ModuleMapper.Bytes

/-!
# Blocks — what is sent at a time

  A block is what one side sends at a time: messages, each a sequence of words. The first word of a
  message is its tag. A block without messages is never sent; a reader hands it out to say that the
  stream has ended between two blocks.
-/

namespace ModuleMapper

/-- A word of a message. It may hold any byte. -/
abbrev Word := Bytes

/-- A message: a tag and its arguments. -/
abbrev Message := List Word

/-- The messages that are sent together. -/
abbrev Block := List Message

namespace Message

/-- The first word of a message. -/
def tag? (message : Message) : Option Word := message.head?

end Message

end ModuleMapper
