import ModuleMapper.Proofs.Answering
import ModuleMapper.Proofs.Course
import ModuleMapper.Proofs.LineEnds
import ModuleMapper.Proofs.LocalFailures
import ModuleMapper.Proofs.RoundTrip
import ModuleMapper.Proofs.Writing

/-!
# Lockstep — each side waits for the other

  The client sends a block and waits for its reply, so a mapper that asked for more before it has replied
  would wait for ever.  It does not: behind a block the reader holds nothing and has asked for nothing
  (`behindNewline_readBlock`), replying does not touch the reader, and a run goes on only from a connection
  on whose output the reply stands as a whole, flushed (`Turn.InStep`).  The client reads it there as a block
  with a message for each of its own.
-/

namespace ModuleMapper

open Wire

variable {σ ω : Type} [sink : Sink ω]

namespace Turn

variable {mapper : Mapper σ} {turn : Turn σ ω}

/-- What a turn has replied to its block: replies that were given by the session, one for each message, were
    taken by the output as a whole and then flushed, and are what a client reads there. -/
structure Replied (mapper : Mapper σ) (turn : Turn σ ω) (replies : Block) : Prop where
  answers : (Session.answerAll mapper turn.block turn.connection.session).1 = .ok replies
  length : replies.length = turn.block.length
  taken : (sink.writeAll (Block.encode replies) turn.connection.output).1 = .ok ()
  flushed : (sink.flush (sink.writeAll (Block.encode replies) turn.connection.output).2).1 = .ok ()
  /-- Nothing else was done to the output. -/
  output : (turn.reply mapper).2.output
    = (sink.flush (sink.writeAll (Block.encode replies) turn.connection.output).2).2
  /-- On an output that keeps a limit they stand behind what was there. -/
  stands : ∀ (limit : Option Nat) (taken : ω → Bytes) (sound : ω → Prop), sink.Keeps limit taken sound →
    sound turn.connection.output → Fits limit (taken turn.connection.output) →
      taken (turn.reply mapper).2.output = taken turn.connection.output ++ Block.encode replies
  read : ∀ stream : InputStream, stream.Calm → stream.rest = Block.encode replies →
    ∃ last, Reader.blocks { stream } = ([replies], none, last)

/-- A reply that gets through is there as a whole. -/
theorem exists_replied (hne : turn.block ≠ []) (h : (turn.reply mapper).1 = .ok ()) :
    ∃ replies, turn.Replied mapper replies := by
  have hreply : turn.reply mapper = Connection.reply mapper turn.block turn.connection := rfl
  cases hanswers : (Session.answerAll mapper turn.block turn.connection.session).1 with
  | error failure =>
      rw [hreply, Connection.reply_of_no_answers hanswers] at h
      cases h
  | ok replies =>
      have hlength := Session.length_of_answerAll hanswers
      rw [Connection.reply_of_answers hanswers] at hreply
      rw [hreply] at h
      have hsent : (sink.send replies turn.connection.output).1 = .ok () := h
      obtain ⟨htaken, hflushed, houtput⟩ := Sink.send_of_ok hsent
      -- with a reply for each message, there is a block to be read back
      have hfull : ∀ block ∈ [replies], block ≠ [] := by
        intro block hmem hnil
        rw [List.mem_singleton.mp hmem] at hnil
        rw [hnil, List.length_nil] at hlength
        exact hne (List.length_eq_zero_iff.mp hlength.symm)
      refine ⟨replies, hanswers, hlength, htaken, hflushed, ?_, ?_, ?_⟩
      · rw [hreply]
        exact houtput
      · intro limit taken sound hkeeps hsound hfits
        rw [hreply]
        exact hkeeps.taken_of_send hsound hfits hsent
      · intro stream hcalm hrest
        have hencoded : stream.rest = [replies].flatMap Block.encode := by
          rw [hrest, List.flatMap_singleton]
        obtain ⟨last, hread, -⟩ := exists_blocks_of_encoded hfull hcalm hencoded
        exact ⟨last, hread⟩

/-- On an output stream the replies stand behind what was written before, and one flush was made. -/
theorem Replied.written {turn : Turn σ} {replies : Block} (h : turn.Replied mapper replies) :
    (turn.reply mapper).2.output.written = turn.connection.output.written ++ Block.encode replies
      ∧ (turn.reply mapper).2.output.flushes = turn.connection.output.flushes + 1 := by
  have hsent : (send replies turn.connection.output).1 = .ok () := by
    refine (Sink.send_eq_ok_iff _ _ _).mpr ?_
    exact ⟨h.taken, h.flushed⟩
  have houtput : (turn.reply mapper).2.output = (send replies turn.connection.output).2 := by
    rw [h.output]
    exact (Sink.send_of_ok hsent).2.2.symm
  rw [houtput]
  exact send_of_ok hsent

/-- A turn of a run that keeps in step with the client, the other turns behind it being given. -/
structure InStep (mapper : Mapper σ) (s : InputStream) (c : Connection σ ω) (turn : Turn σ ω)
    (later : List (Turn σ ω)) : Prop where
  /-- When the block has been heard, nothing behind it was taken or asked for. -/
  heard : turn.connection.reader.BehindNewline s
  /-- Nothing is taken or asked for while it is replied to. -/
  still : (turn.reply mapper).2.reader = turn.connection.reader
  /-- When the run goes on to read, the reply is there as a whole and flushed. -/
  replied : (turn.reply mapper).1 = .ok () →
    (∃ replies, turn.Replied mapper replies)
    ∧ Connection.run mapper c = Connection.run mapper (turn.reply mapper).2
    ∧ later = Connection.course mapper (turn.reply mapper).2
  /-- Without a reply the run does not go on to read. -/
  failed : ∀ failure, (turn.reply mapper).1 = .error failure →
    Connection.run mapper c = (.error failure, (turn.reply mapper).2.enter .failed) ∧ later = []

end Turn

namespace Connection

variable {mapper : Mapper σ} {c : Connection σ ω} {s : InputStream}

/-- Every block of a run is heard by a reader of the same stream.  Induction on the turns in front of it:
    a reader that is behind a block stays where it is until the next is read. -/
theorem behindNewline_of_course (h : c.reader.Reached s) {earlier later : List (Turn σ ω)}
    {turn : Turn σ ω} (hcourse : course mapper c = earlier ++ turn :: later) :
    turn.connection.reader.BehindNewline s := by
  induction earlier generalizing c with
  | nil =>
      obtain ⟨block, hblock, hne, rfl, -⟩ := exists_of_course_eq_cons hcourse
      exact (Reader.behindNewline_readBlock h hblock hne).1
  | cons first earlier ih =>
      obtain ⟨block, hblock, hne, rfl, hlater⟩ := exists_of_course_eq_cons hcourse
      cases hreply : (Turn.reply mapper ⟨block, c.listened⟩).1 with
      | error failure =>
          rw [hreply] at hlater
          exact absurd hlater (List.append_ne_nil_of_right_ne_nil _ (List.cons_ne_nil _ _))
      | ok done =>
          rw [hreply] at hlater
          have hnext : (Turn.reply mapper ⟨block, c.listened⟩).2.reader.Reached s := by
            rw [Turn.reader_reply]
            exact h.readBlock
          exact ih hnext hlater.symm

/-- **Lockstep.**  On any stream, and whatever was called before: behind a block that a reader delivers,
    the newline that ended it is the last byte that was taken, nothing is held, and nothing has been asked
    for since.  And every turn of a run keeps in step, whatever takes its replies: the run goes on to read only
    when the reply stands on the output as a whole and has been flushed, and until then nothing behind the
    block is taken or asked for. -/
theorem lockstep (mapper : Mapper σ) (s : InputStream) :
    (∀ (r : Reader) (block : Block), r.Reached s → r.readBlock.1 = .ok block → block ≠ [] →
        r.readBlock.2.BehindNewline s
          ∧ ∃ tokens, r.Yields (tokens ++ [.newline]) r.readBlock.2
            ∧ Draft.assemble {} (tokens ++ [.newline]) = ([block], {}))
      ∧ (∀ (c : Connection σ ω) (earlier : List (Turn σ ω)) (turn : Turn σ ω) (later : List (Turn σ ω)),
        c.reader.Reached s → course mapper c = earlier ++ turn :: later →
          turn.InStep mapper s c later)
      ∧ ∀ (turn : Turn σ) (replies : Block), turn.Replied mapper replies →
        (turn.reply mapper).2.output.written = turn.connection.output.written ++ Block.encode replies
          ∧ (turn.reply mapper).2.output.flushes = turn.connection.output.flushes + 1 := by
  refine ⟨fun r block => Reader.behindNewline_readBlock, ?_, fun turn replies => Turn.Replied.written⟩
  intro c earlier turn later hreached hcourse
  obtain ⟨hreplied, hfailed⟩ := course_eq_append_cons hcourse
  have hmem : turn ∈ course mapper c := by
    rw [hcourse]
    exact List.mem_append_right earlier List.mem_cons_self
  have hne := block_ne_nil_of_course hmem
  exact {
    heard := behindNewline_of_course hreached hcourse
    still := Turn.reader_reply mapper turn
    replied := fun hreply => ⟨Turn.exists_replied hne hreply, hreplied hreply⟩
    failed := hfailed }

/-- Two blocks, of which the first is lost in part: the stream fails inside a quoted word that goes over
    two lines. -/
def stumblingStream : InputStream where
  rest := Bytes.ofString "HELLO 1 'G\nCC' '' ;\nMODULE-EXPORT a\nMODULE-REPO\n"
  chunk := 4
  faults := [⟨12, false, "connection lost"⟩]

/-- What is left of the first block when it is read again. -/
def remnant : Block :=
  [[Bytes.ofString "G\nCC", []], [Bytes.ofString "MODULE-EXPORT", Bytes.ofString "a"]]

/-- A client whose mapper goes on behind the failure. -/
def stumblingClient : Connection Unit where
  reader := (Reader.readBlock { stream := stumblingStream }).2
  session := { workspace := Workspace.blank }

/-- What is left of the first block is refused, message by message: the mapper has not read a handshake. -/
def refusals : Bytes :=
  Bytes.ofString "ERROR 'message before valid handshake' ;\nERROR 'message before valid handshake'\n"

/-- The mapper reads on, and before it does, both refusals stand on its output and are flushed. -/
theorem lockstep_stumblingClient :
    (Reader.readBlock { stream := stumblingStream }).1 = .error (.stream (.note "connection lost"))
      ∧ stumblingClient.reader.Reached stumblingStream
      ∧ stumblingClient.reader.readBlock.1 = .ok remnant
      ∧ stumblingClient.reader.readBlock.2.BehindNewline stumblingStream
      ∧ ∃ later, course Mapper.idle stumblingClient = ⟨remnant, stumblingClient.listened⟩ :: later
        ∧ Turn.InStep Mapper.idle stumblingStream stumblingClient
          ⟨remnant, stumblingClient.listened⟩ later
        ∧ ∃ replies, Turn.Replied Mapper.idle ⟨remnant, stumblingClient.listened⟩ replies
          ∧ Block.encode replies = refusals
          ∧ (Turn.reply Mapper.idle ⟨remnant, stumblingClient.listened⟩).2.output.written = refusals
          ∧ (Turn.reply Mapper.idle ⟨remnant, stumblingClient.listened⟩).2.output.flushes = 1 := by
  have hreached : stumblingClient.reader.Reached stumblingStream := Reader.Reached.start.readBlock
  have hblock : stumblingClient.reader.readBlock.1 = .ok remnant := by decide +kernel
  have hne : remnant ≠ [] := by decide
  obtain ⟨hread, hrun, hstands⟩ := lockstep (ω := OutputStream) Mapper.idle stumblingStream
  have hstep := hrun _ [] _ _ hreached (course_of_block hblock hne)
  have hreplied : (Turn.reply Mapper.idle ⟨remnant, stumblingClient.listened⟩).1 = .ok () := by
    decide +kernel
  have hwritten : (Turn.reply Mapper.idle ⟨remnant, stumblingClient.listened⟩).2.output.written
      = refusals := by
    decide +kernel
  obtain ⟨⟨replies, hthere⟩, -⟩ := hstep.replied hreplied
  obtain ⟨hencoded, hflushes⟩ := hstands _ replies hthere
  exact ⟨by decide +kernel, hreached, hblock, (hread _ _ hreached hblock hne).1, _,
    course_of_block hblock hne, hstep, replies, hthere, hencoded.symm.trans hwritten, hwritten, hflushes⟩

end Connection

end ModuleMapper
