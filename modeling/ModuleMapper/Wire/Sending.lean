import ModuleMapper.Stream.Output
import ModuleMapper.Wire.Encoding

/-!
# Sending — a block at a time

  A block is encoded as a whole, written, and flushed once all of it is taken. The empty block is
  nothing to write, and is flushed all the same.
-/

namespace ModuleMapper

variable {ω : Type}

/-- Write a block and flush the sink. -/
def Sink.send (sink : Sink ω) (block : Block) (s : ω) : Except Failure Unit × ω :=
  match sink.writeAll (Block.encode block) s with
  | (.error cause, s) => (.error (.stream cause), s)
  | (.ok (), s) =>
    match sink.flush s with
    | (.error cause, s) => (.error (.stream cause), s)
    | (.ok (), s) => (.ok (), s)

/-- Send a block to the sink of an output. -/
def Wire.send [sink : Sink ω] (block : Block) (output : ω) : Except Failure Unit × ω :=
  sink.send block output

end ModuleMapper
