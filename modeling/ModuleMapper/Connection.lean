import ModuleMapper.Session
import ModuleMapper.Wire.Reader
import ModuleMapper.Wire.Sending

/-!
# Connections — a session over a pair of streams

  Every block of requests gets one block of replies. The replies are written when the whole block has
  been answered, and a block that gets no full answer gets none at all. `exchange` serves one block,
  `run` all of them until the client closes the stream or something fails.
-/

namespace ModuleMapper

/-- A session, the reader of its requests, and what takes its replies: an output stream, if nothing else is
    said. -/
structure Connection (σ : Type) (ω : Type := OutputStream) where
  reader : Wire.Reader
  output : ω := by exact {}
  session : Session σ
  deriving Repr, DecidableEq

namespace Connection

variable {σ ω : Type}

/-- Note how far the session has come. -/
def enter (c : Connection σ ω) (phase : Phase) : Connection σ ω :=
  { c with session := { c.session with phase } }

variable [Sink ω]

/-- Answer a block and write the replies. -/
def reply (mapper : Mapper σ) (block : Block) (c : Connection σ ω) :
    Except Failure Unit × Connection σ ω :=
  match Session.answerAll mapper block c.session with
  | (.error failure, session) => (.error failure, { c with session })
  | (.ok replies, session) =>
    let (outcome, output) := Wire.send replies c.output
    (outcome, { c with session, output })

/-- Serve the next block. The answer is whether there was one. -/
def exchange (mapper : Mapper σ) (c : Connection σ ω) : Except Failure Bool × Connection σ ω :=
  match c.reader.readBlock with
  | (.error failure, reader) => (.error failure, { c with reader })
  | (.ok [], reader) => (.ok false, { c with reader })
  | (.ok block, reader) =>
    match reply mapper block { c with reader } with
    | (.error failure, c) => (.error failure, c)
    | (.ok (), c) => (.ok true, c)

@[simp] theorem reader_reply (mapper : Mapper σ) (block : Block) (c : Connection σ ω) :
    (reply mapper block c).2.reader = c.reader := by
  unfold reply
  split <;> rfl

/-- A block that is served uses up at least one byte. -/
theorem remaining_exchange_lt {mapper : Mapper σ} {c : Connection σ ω}
    (h : (exchange mapper c).1 = .ok true) :
    (exchange mapper c).2.reader.remaining < c.reader.remaining := by
  unfold exchange at h ⊢
  split at h
  · cases h
  · cases h
  · next block reader hne hnext =>
    have hblock : c.reader.readBlock.1 = .ok block := by rw [hnext]
    have hlt := Wire.Reader.remaining_readBlock_lt hblock hne
    rw [hnext] at hlt
    have hreader := reader_reply mapper block { c with reader }
    split at h
    · cases h
    · next hreply =>
      rw [hreply] at hreader
      simp only
      rw [hreader]
      exact hlt

/-- Serve blocks until the client closes the stream or something fails. -/
def run (mapper : Mapper σ) (c : Connection σ ω) : Except Failure Unit × Connection σ ω :=
  match _ : (exchange mapper c).1 with
  | .ok true => run mapper (exchange mapper c).2
  | .ok false => (.ok (), (exchange mapper c).2.enter .closed)
  | .error failure => (.error failure, (exchange mapper c).2.enter .failed)
termination_by c.reader.remaining
decreasing_by exact remaining_exchange_lt (by assumption)

end Connection

end ModuleMapper
