import ModuleMapper.Stream.Sink

/-!
# Output streams — bytes that leave in pieces, as long as the other side takes them

  A stream keeps what it has taken and how often it was flushed. It may take few bytes at once, stop
  taking any at a limit, and fail to flush. It is the sink that the program itself writes to.
-/

namespace ModuleMapper

/-- What a write meets at the limit of a stream. -/
inductive AtLimit where
  /-- The write fails. -/
  | fails
  /-- The write takes no byte. -/
  | takesNothing
  deriving Repr, DecidableEq

/-- A stream of bytes to write to. -/
structure OutputStream where
  /-- The bytes taken so far. -/
  written : Bytes := []
  /-- How often the stream was flushed, or asked to be. -/
  flushes : Nat := 0
  /-- The most bytes that one write takes. -/
  atOnce : Option Nat := none
  /-- The most bytes that the stream takes in all. -/
  limit : Option Nat := none
  atLimit : AtLimit := .fails
  /-- What every flush fails with, if flushes fail. -/
  flushFault : Option String := none
  deriving Repr, DecidableEq

namespace OutputStream

/-- How many of `count` bytes the next write takes. -/
def capacity (s : OutputStream) (count : Nat) : Nat :=
  let room := match s.limit with
    | some limit => min count (limit - s.written.length)
    | none => count
  match s.atOnce with
  | some most => min room most
  | none => room

/-- Has the stream taken all it ever will? -/
def isFull (s : OutputStream) : Bool :=
  match s.limit with
  | some limit => decide (limit ≤ s.written.length)
  | none => false

/-- One write: how many bytes were taken. -/
def write (s : OutputStream) (bytes : Bytes) : Except SystemError Nat × OutputStream :=
  if s.isFull && s.atLimit == .fails then (.error (.note "pipe closed"), s)
  else
    let taken := s.capacity bytes.length
    (.ok taken, { s with written := s.written ++ bytes.take taken })

/-- Ask the stream to pass on what it has taken. -/
def flush (s : OutputStream) : Except SystemError Unit × OutputStream :=
  let s := { s with flushes := s.flushes + 1 }
  match s.flushFault with
  | some text => (.error (.note text), s)
  | none => (.ok (), s)

end OutputStream

instance Sink.ofStream : Sink OutputStream where
  write := fun bytes s => s.write bytes
  flush := OutputStream.flush

end ModuleMapper
