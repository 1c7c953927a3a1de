import ModuleMapper.Bytes
import ModuleMapper.SystemError

/-!
# Sinks — what takes bytes by writes

  How many of the bytes that it is offered a sink takes, and when it fails, is up to each write. `writeAll`
  writes until all is taken; what was taken before a failure stays taken.
-/

namespace ModuleMapper

/-- What takes bytes by writes, and can be flushed. -/
class Sink (ω : Type) where
  /-- One write: how many of the bytes were taken. -/
  write : Bytes → ω → Except SystemError Nat × ω
  /-- Pass on what was taken. -/
  flush : ω → Except SystemError Unit × ω

namespace Sink

variable {ω : Type}

/-- Write until every byte is taken, a write fails, or a write takes nothing. -/
def writeAll (sink : Sink ω) (bytes : Bytes) (s : ω) : Except SystemError Unit × ω :=
  if bytes = [] then (.ok (), s)
  else
    match sink.write bytes s with
    | (.error cause, s) => (.error cause, s)
    | (.ok count, s) =>
      if count = 0 then (.error .writeZero, s) else writeAll sink (bytes.drop count) s
termination_by bytes.length
decreasing_by
  have := List.length_pos_iff.2 (by assumption : ¬bytes = [])
  simp only [List.length_drop]
  omega

end Sink

end ModuleMapper
