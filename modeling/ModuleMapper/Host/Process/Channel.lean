import ModuleMapper.FileSystem.Content

/-!
# Channels — where a process reads and writes

  A channel is what a descriptor leads to: a file with a place in it, a pipe, the place where children
  print, or nothing. Processes that share a channel share the place in the file too.
-/

namespace ModuleMapper

/-- How a file is opened. -/
inductive Opening where
  | read
  /-- The file is emptied first. -/
  | write
  /-- The same, even where files are protected. -/
  | overwrite
  | append
  | readWrite
  deriving Repr, DecidableEq

/-- Bytes that are written at one end and read at the other. -/
structure Queue where
  /-- What is read first. -/
  front : Bytes := []
  /-- What was written later, in parts, the last one first. -/
  back : List Bytes := []
  deriving Repr, DecidableEq

namespace Queue

/-- A queue that holds some bytes. -/
def ofBytes (bytes : Bytes) : Queue := { front := bytes }

/-- All that the queue holds. -/
def toBytes (queue : Queue) : Bytes :=
  match queue.back with
  | [] => queue.front
  | back => queue.front ++ back.reverse.flatten

/-- Write at the end. -/
def push (queue : Queue) (bytes : Bytes) : Queue := { queue with back := bytes :: queue.back }

/-- Take bytes off the front. -/
def drop (queue : Queue) (count : Nat) : Queue := ofBytes (queue.toBytes.drop count)

end Queue

/-- What a descriptor leads to. -/
inductive Channel where
  /-- Nothing is read, and what is written is lost. -/
  | null
  /-- Where children print. -/
  | printed
  | file (location : Location) (offset : Nat) (opening : Opening)
  | directory
  /-- Bytes that were written and wait to be read. -/
  | pipe (waiting : Queue)
  deriving Repr, DecidableEq

namespace Opening

/-- May the file be read? -/
def reads : Opening → Bool
  | read | readWrite => true
  | write | overwrite | append => false

/-- May the file be written? -/
def writes : Opening → Bool
  | read => false
  | _ => true

end Opening

namespace Channel

/-- Bytes with others written over them from an offset on. -/
def overlay (content : Bytes) (offset : Nat) (bytes : Bytes) : Bytes :=
  content.take offset ++ List.replicate (offset - content.length) Byte.nul ++ bytes
    ++ content.drop (offset + bytes.length)

end Channel

end ModuleMapper
