import ModuleMapper.Proofs.Course
import ModuleMapper.Proofs.History
import ModuleMapper.Proofs.LocalFailures
import ModuleMapper.Proofs.Writing

/-!
# Whole replies — a block is answered as a whole or not at all

  The replies to a block are sent when all its messages have been answered, and nothing else is ever sent.
  So in the course of any calls the output is what sending the completed replies makes of it, one block
  after another (`output_performAll`): a front of them stands on it, and all of them if no write fails.

  A block that is not answered to its end leaves no byte and no flush behind.  The message that stops it
  is the last one that is handled; it has no words, or it is an import whose compilation fails in a way
  that ends the session (`Connection.AllOrNothing`).
-/

namespace ModuleMapper

open Wire

variable {σ : Type}

/-! ## The message that stops a block -/

namespace Session

variable {mapper : Mapper σ} {block : Block} {s : Session σ} {failure : Failure}

/-- A message stops its block: those in front of it are answered, and it is not. -/
structure Stops (mapper : Mapper σ) (block : Block) (s : Session σ) (failure : Failure)
    (earlier : Block) (message : Message) (later : Block) : Prop where
  split : block = earlier ++ message :: later
  answered : ∃ replies, (answerAll mapper earlier s).1 = .ok replies
  unanswered : (answer mapper message (answerAll mapper earlier s).2).1 = .error failure

/-- A block that gets no replies is stopped by one of its messages. -/
theorem exists_stops (h : (answerAll mapper block s).1 = .error failure) :
    ∃ earlier message later, Stops mapper block s failure earlier message later := by
  induction block generalizing s with
  | nil => cases h
  | cons message others ih =>
      cases hanswer : (answer mapper message s).1 with
      | error cause =>
          rw [answerAll_of_error hanswer] at h
          injection h with hcause
          subst hcause
          exact ⟨[], message, others, rfl, ⟨[], rfl⟩, hanswer⟩
      | ok response =>
          -- it is one of the others, which are answered by the session behind this one
          rw [answerAll_of_ok hanswer] at h
          cases hothers : (answerAll mapper others (answer mapper message s).2).1 with
          | ok replies =>
              rw [hothers] at h
              cases h
          | error cause =>
              rw [hothers] at h
              injection h with hcause
              subst hcause
              obtain ⟨earlier, last, later, hsplit, ⟨replies, hanswered⟩, hunanswered⟩ := ih hothers
              refine ⟨message :: earlier, last, later, congrArg (message :: ·) hsplit, ?_, ?_⟩
              · refine ⟨response.toMessage :: replies, ?_⟩
                rw [answerAll_of_ok hanswer, hanswered]
                rfl
              · rw [answerAll_of_ok hanswer]
                exact hunanswered

variable {earlier later : Block} {message : Message}

/-- What becomes of a session whose block is stopped: the messages behind do not matter. -/
theorem Stops.answerAll (h : Stops mapper block s failure earlier message later) :
    answerAll mapper block s
      = (.error failure, (answer mapper message (answerAll mapper earlier s).2).2) := by
  obtain ⟨hsplit, ⟨replies, hanswered⟩, hunanswered⟩ := h
  rw [hsplit, answerAll_append hanswered, answerAll_of_error hunanswered]
  rfl

/-- The message that stops a block is the last one that is handled. -/
theorem Stops.handlings (h : Stops mapper block s failure earlier message later) :
    handlings mapper block s
      = handlings mapper earlier s
        ++ [.handled message (Session.answerAll mapper earlier s).2
          (answer mapper message (Session.answerAll mapper earlier s).2).2] := by
  obtain ⟨hsplit, ⟨replies, hanswered⟩, hunanswered⟩ := h
  rw [hsplit, handlings_append hanswered, Session.handlings, hunanswered]

end Session

/-! ## What is sent -/

namespace Turn

variable {ω : Type}

/-- The replies to the block of a turn, if all its messages get an answer. -/
def replies? (mapper : Mapper σ) (turn : Turn σ ω) : Option Block :=
  (Session.answerAll mapper turn.block turn.connection.session).1.toOption

/-- What a turn does to the output is to send its replies, if it has any. -/
theorem output_reply [Sink ω] (mapper : Mapper σ) (turn : Turn σ ω) :
    (turn.reply mapper).2.output
      = sendAll (turn.replies? mapper).toList turn.connection.output := by
  rw [replies?, Turn.reply]
  cases hanswers : (Session.answerAll mapper turn.block turn.connection.session).1 with
  | error failure =>
      rw [Connection.reply_of_no_answers hanswers]
      rfl
  | ok replies =>
      rw [Connection.reply_of_answers hanswers]
      rfl

end Turn

namespace Connection

variable {ω : Type} [sink : Sink ω] {mapper : Mapper σ} {c : Connection σ ω}

/-- The turns of a call.  An exchange takes the first of those that a run would take. -/
def turns (mapper : Mapper σ) (c : Connection σ ω) : Call → List (Turn σ ω)
  | .exchange => (course mapper c).take 1
  | .run => course mapper c
  | .answer _ => []

/-- The blocks of replies that calls complete, in the order of their requests. -/
def completed (mapper : Mapper σ) : List Call → Connection σ ω → List Block
  | [], _ => []
  | call :: calls, c =>
      (turns mapper c call).filterMap (Turn.replies? mapper)
        ++ completed mapper calls (c.perform mapper call)

theorem output_exchange (mapper : Mapper σ) (c : Connection σ ω) :
    (exchange mapper c).2.output
      = sendAll (((course mapper c).take 1).filterMap (Turn.replies? mapper)) c.output := by
  cases hblock : c.reader.readBlock.1 with
  | error failure =>
      rw [exchange_of_error hblock, course_of_error hblock]
      rfl
  | ok block =>
      by_cases hne : block = []
      · subst hne
        rw [exchange_of_end hblock, course_of_end hblock]
        rfl
      · rw [exchange_of_block hblock hne, course_of_block hblock hne]
        show (Turn.reply mapper ⟨block, c.listened⟩).2.output = _
        rw [Turn.output_reply, List.take_succ_cons, List.take_zero, List.filterMap_cons]
        cases Turn.replies? mapper ⟨block, c.listened⟩ with
        | none => rfl
        | some replies => rfl

/-- **A run sends the replies of its turns.**  Induction on the blocks of the reader: a reply that fails is
    the last, and what was sent of it stays. -/
theorem output_run (mapper : Mapper σ) (c : Connection σ ω) :
    (run mapper c).2.output
      = sendAll ((course mapper c).filterMap (Turn.replies? mapper)) c.output := by
  generalize hreader : c.reader = r
  induction r using Reader.blocks.induct generalizing c with
  | case1 r failure hblock =>
      subst hreader
      have hexchange : exchange mapper c = _ := exchange_of_error hblock
      rw [run_of_error (congrArg Prod.fst hexchange), hexchange, course_of_error hblock]
      rfl
  | case2 r hblock =>
      subst hreader
      have hexchange : exchange mapper c = _ := exchange_of_end hblock
      rw [run_of_false (congrArg Prod.fst hexchange), hexchange, course_of_end hblock]
      rfl
  | case3 r block hblock hne _ _ _ _ ih =>
      subst hreader
      have hcons : ∀ later, sendAll ((⟨block, c.listened⟩ :: later).filterMap (Turn.replies? mapper))
            c.output
          = sendAll (later.filterMap (Turn.replies? mapper))
            (Turn.reply mapper ⟨block, c.listened⟩).2.output := by
        intro later
        rw [Turn.output_reply, ← sendAll_append, List.filterMap_cons]
        cases Turn.replies? mapper ⟨block, c.listened⟩ with
        | none => rfl
        | some replies => rfl
      rw [course_of_block hblock hne, hcons]
      cases hreply : (Turn.reply mapper ⟨block, c.listened⟩).1 with
      | error failure =>
          rw [run_of_reply_error hblock hne hreply]
          rfl
      | ok done =>
          rw [run_of_reply hblock hne hreply]
          exact ih _ (Turn.reader_reply mapper ⟨block, c.listened⟩)

/-- **Calls send the replies that they complete**, in order, and nothing else. -/
theorem output_performAll (mapper : Mapper σ) (calls : List Call) (c : Connection σ ω) :
    (performAll mapper calls c).output = sendAll (completed mapper calls c) c.output := by
  induction calls generalizing c with
  | nil => rfl
  | cons call calls ih =>
      rw [performAll, ih, completed, sendAll_append]
      refine congrArg _ ?_
      cases call with
      | exchange => exact output_exchange mapper c
      | run => exact output_run mapper c
      | answer block => rfl

/-! ## Exchanges that fail -/

/-- An exchange completes the replies to its block, or it does nothing to the output. -/
structure AllOrNothing (mapper : Mapper σ) (c : Connection σ ω) : Prop where
  /-- If reading fails, the reader is all that has changed. -/
  unread : ∀ failure, c.reader.readBlock.1 = .error failure →
    exchange mapper c = (.error failure, c.listened)
  /-- If a message stops the block, nothing is sent, and the session is as it is behind that message: the
      messages behind it are not handled. -/
  unanswered : ∀ block failure earlier message later, c.reader.readBlock.1 = .ok block →
    Session.Stops mapper block c.session failure earlier message later →
      exchange mapper c
          = (.error failure, { c.listened with
              session := (Session.answer mapper message
                (Session.answerAll mapper earlier c.session).2).2 })
        ∧ exchangeEvents mapper c
          = Session.handlings mapper earlier c.session
            ++ [.handled message (Session.answerAll mapper earlier c.session).2
              (Session.answer mapper message (Session.answerAll mapper earlier c.session).2).2]
  /-- A message stops its block only if it has no words, or if it is an import that fails in the compiler,
      in a way that ends the session. -/
  stopped : ∀ block failure earlier message later,
    Session.Stops mapper block c.session failure earlier message later →
      message = [] ∧ failure = .emptyMessage
        ∨ failure.endsSession = true
          ∧ ∃ name, Request.ofMessage? message = some (.moduleImport name)
            ∧ mapper.FailsToCompile name failure
  /-- If the exchange fails, then one of the two has happened, or all messages have been answered and
      sending has failed. -/
  otherwise : ∀ failure, (exchange mapper c).1 = .error failure →
    c.reader.readBlock.1 = .error failure
      ∨ ∃ block, c.reader.readBlock.1 = .ok block
        ∧ ((∃ earlier message later,
              Session.Stops mapper block c.session failure earlier message later)
          ∨ ∃ replies, (Session.answerAll mapper block c.session).1 = .ok replies
            ∧ (send replies c.output).1 = .error failure)

/-- A block that is stopped by a message is not replied to. -/
theorem exchange_of_stops {block earlier later : Block} {message : Message} {failure : Failure}
    (hblock : c.reader.readBlock.1 = .ok block)
    (hstops : Session.Stops mapper block c.session failure earlier message later) :
    exchange mapper c
      = (.error failure, { c.listened with
          session := (Session.answer mapper message
            (Session.answerAll mapper earlier c.session).2).2 }) := by
  have hne : block ≠ [] := by
    rw [hstops.split]
    exact List.append_ne_nil_of_right_ne_nil _ (List.cons_ne_nil _ _)
  rw [exchange_of_block hblock hne, reply, hstops.answerAll]
  rfl

/-- Of the exchanges that fail, those whose messages are all answered fail in sending. -/
theorem send_of_exchange {block replies : Block} {failure : Failure}
    (hblock : c.reader.readBlock.1 = .ok block)
    (hreplies : (Session.answerAll mapper block c.session).1 = .ok replies)
    (h : (exchange mapper c).1 = .error failure) : (send replies c.output).1 = .error failure := by
  have hne : block ≠ [] := by
    rintro rfl
    rw [exchange_of_end hblock] at h
    cases h
  have hanswers : (Session.answerAll mapper block c.listened.session).1 = .ok replies := hreplies
  rw [exchange_of_block hblock hne, ← listened, reply_of_answers hanswers] at h
  show (send replies c.listened.output).1 = .error failure
  cases hsent : (send replies c.listened.output).1 with
  | ok done =>
      rw [hsent] at h
      cases h
  | error cause =>
      rw [hsent] at h
      injection h with hcause
      rw [hcause]

theorem allOrNothing (mapper : Mapper σ) (c : Connection σ ω) : AllOrNothing mapper c := by
  refine ⟨fun failure => exchange_of_error, ?_, ?_, ?_⟩
  · intro block failure earlier message later hblock hstops
    refine ⟨exchange_of_stops hblock hstops, ?_⟩
    rw [exchangeEvents, hblock]
    exact hstops.handlings
  · intro block failure earlier message later hstops
    rcases Session.failure_of_answer hstops.unanswered with hempty | ⟨hends, -, himport⟩
    · exact Or.inl hempty
    · exact Or.inr ⟨hends, himport⟩
  · intro failure h
    cases hblock : c.reader.readBlock.1 with
    | error cause =>
        rw [exchange_of_error hblock] at h
        injection h with hcause
        exact Or.inl (congrArg Except.error hcause)
    | ok block =>
        refine Or.inr ⟨block, rfl, ?_⟩
        cases hreplies : (Session.answerAll mapper block c.session).1 with
        | ok replies => exact Or.inr ⟨replies, rfl, send_of_exchange hblock hreplies h⟩
        | error cause =>
            obtain ⟨earlier, message, later, hstops⟩ := Session.exists_stops hreplies
            rw [exchange_of_stops hblock hstops] at h
            injection h with hcause
            exact Or.inl ⟨earlier, message, later, hcause ▸ hstops⟩

/-- **Replies are written as a whole or not at all**, as far as the output takes them.  Whatever is called
    on a connection, in whatever state, and whatever the client sends, the files hold and the compiler does:
    the completed replies are sent, in order, and nothing else is.  So on every output that keeps a limit,
    however it cuts what it takes and whichever of its flushes fail, the bytes that are added are the front
    of the completed replies that fits, and all of them if no write fails.  An exchange that does not
    complete its replies adds nothing, does not flush, and handles no message behind the one that stops
    it. -/
theorem replies_all_or_nothing (mapper : Mapper σ) (calls : List Call) (c : Connection σ ω) :
    (performAll mapper calls c).output = sendAll (completed mapper calls c) c.output
      ∧ (∀ (limit : Option Nat) (taken : ω → Bytes) (sound : ω → Prop),
          sink.Keeps limit taken sound → sound c.output → Fits limit (taken c.output) →
            taken (performAll mapper calls c).output
                = cut limit (taken c.output ++ (completed mapper calls c).flatMap Block.encode)
              ∧ ∃ bytes, taken (performAll mapper calls c).output = taken c.output ++ bytes
                ∧ bytes <+: (completed mapper calls c).flatMap Block.encode
                ∧ (sink.AllTaken (completed mapper calls c) c.output →
                    bytes = (completed mapper calls c).flatMap Block.encode))
      ∧ ∀ d : Connection σ ω, AllOrNothing mapper d := by
  refine ⟨output_performAll mapper calls c, ?_, allOrNothing mapper⟩
  intro limit taken sound hkeeps hsound hfits
  rw [output_performAll]
  constructor
  · exact (hkeeps.sendAll (completed mapper calls c) hsound hfits).1
  · exact hkeeps.exists_sendAll (completed mapper calls c) hsound hfits

/-- A client whose third block holds a message without words. -/
def cutOffReader : Reader :=
  { stream := {
    rest := Bytes.ofString
      "HELLO 1 GCC '' ;\nMODULE-REPO\nMODULE-REPO\nMODULE-REPO ;\n\nMODULE-REPO\n" } }

/-- Its replies go to an output that takes one, two or three bytes in turn, and none any more in the middle
    of the second reply.  Some flushes fail. -/
def cutOffClient : Connection Unit (Unsteady 70) where
  reader := cutOffReader
  output := { asked := 2 }
  session := { workspace := Workspace.blank }

/-- The same client, with an output that takes everything and cannot be flushed. -/
def unflushedClient : Connection Unit where
  reader := cutOffReader
  output := { atOnce := some 5, flushFault := some "broken pipe" }
  session := { workspace := Workspace.blank }

/-- What is called for these clients, which serves their four blocks. -/
def persistentCalls : List Call := [.run, .exchange, .exchange, .run]

/-- The cut off client has its first reply as a whole, though the run ends as the flush fails, and a part of
    its second one; its third block is stopped.  The output that takes everything holds three replies as a
    whole, though no flush succeeds. -/
theorem replies_all_or_nothing_cutOffClient :
    (completed Mapper.idle persistentCalls cutOffClient).length = 3
      ∧ (performAll Mapper.idle [.run] cutOffClient).output.written
          = (completed Mapper.idle [.run] cutOffClient).flatMap Block.encode
      ∧ (run Mapper.idle cutOffClient).1.toOption = none
      ∧ (performAll Mapper.idle persistentCalls cutOffClient).output.written
          = ((completed Mapper.idle persistentCalls cutOffClient).flatMap Block.encode).take 70
      ∧ 70 < ((completed Mapper.idle persistentCalls cutOffClient).flatMap Block.encode).length
      ∧ (exchange Mapper.idle (performAll Mapper.idle [.run, .exchange] cutOffClient)).1.toOption = none
      ∧ AllOrNothing Mapper.idle (performAll Mapper.idle [.run, .exchange] cutOffClient)
      ∧ (performAll Mapper.idle persistentCalls unflushedClient).output.written
          = (completed Mapper.idle persistentCalls unflushedClient).flatMap Block.encode
      ∧ (completed Mapper.idle persistentCalls unflushedClient).length = 3 := by
  have hkeeps := Unsteady.keeps 70
  -- the run alone meets no failing write
  obtain ⟨-, hfirst, -⟩ := replies_all_or_nothing Mapper.idle [.run] cutOffClient
  obtain ⟨-, first, hwritten, -, hwhole⟩ := hfirst _ _ _ hkeeps trivial (by decide)
  have htaken : Unsteady.sink.AllTaken (completed Mapper.idle [.run] cutOffClient) cutOffClient.output := by
    decide +kernel
  -- all calls together meet the limit
  obtain ⟨-, hlast, hall⟩ := replies_all_or_nothing Mapper.idle persistentCalls cutOffClient
  have hcut := (hlast _ _ _ hkeeps trivial (by decide)).1
  -- without a limit no write fails
  obtain ⟨-, hopen, -⟩ := replies_all_or_nothing Mapper.idle persistentCalls unflushedClient
  obtain ⟨-, whole, hwritten', -, hwhole'⟩ := hopen _ _ _ (Sink.keeps_ofStream none (some "broken pipe"))
    ⟨rfl, rfl, by decide⟩ (by decide)
  have htaken' : Sink.ofStream.AllTaken (completed Mapper.idle persistentCalls unflushedClient)
      unflushedClient.output := by
    decide +kernel
  refine ⟨by decide +kernel, ?_, by decide +kernel, hcut, by decide +kernel, by decide +kernel, hall _, ?_,
    by decide +kernel⟩
  · rw [hwritten, hwhole htaken]
    rfl
  · rw [hwritten', hwhole' htaken']
    rfl

end Connection

end ModuleMapper
