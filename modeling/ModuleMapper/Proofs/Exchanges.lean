import ModuleMapper.Connection

/-!
# Exchanges — what one step of a run does

  An exchange is decided by what the reader gives: a failure, the end of the stream, or a block, which is
  replied to.  A run goes on behind an exchange that served a block, and comes to its end behind any
  other.
-/

namespace ModuleMapper.Connection

variable {σ ω : Type} [Sink ω] {mapper : Mapper σ} {c : Connection σ ω}

/-- Replies are sent when all messages have been answered. -/
theorem reply_of_answers {block replies : Block}
    (h : (Session.answerAll mapper block c.session).1 = .ok replies) :
    reply mapper block c
      = ((Wire.send replies c.output).1,
        { c with
          session := (Session.answerAll mapper block c.session).2
          output := (Wire.send replies c.output).2 }) := by
  rw [reply, show Session.answerAll mapper block c.session = (.ok replies, _) from Prod.ext h rfl]

/-- Without an answer to one of the messages, nothing is sent. -/
theorem reply_of_no_answers {block : Block} {failure : Failure}
    (h : (Session.answerAll mapper block c.session).1 = .error failure) :
    reply mapper block c
      = (.error failure, { c with session := (Session.answerAll mapper block c.session).2 }) := by
  rw [reply, show Session.answerAll mapper block c.session = (.error failure, _) from Prod.ext h rfl]

/-- Replying to a block leaves the session as answering it does. -/
theorem session_reply (mapper : Mapper σ) (block : Block) (c : Connection σ ω) :
    (reply mapper block c).2.session = (Session.answerAll mapper block c.session).2 := by
  cases hanswers : (Session.answerAll mapper block c.session).1 with
  | ok replies => rw [reply_of_answers hanswers]
  | error failure => rw [reply_of_no_answers hanswers]

theorem exchange_of_error {failure : Failure} (h : c.reader.readBlock.1 = .error failure) :
    exchange mapper c = (.error failure, { c with reader := c.reader.readBlock.2 }) := by
  rw [exchange, show c.reader.readBlock = (.error failure, c.reader.readBlock.2) from
    Prod.ext h rfl]

theorem exchange_of_end (h : c.reader.readBlock.1 = .ok []) :
    exchange mapper c = (.ok false, { c with reader := c.reader.readBlock.2 }) := by
  rw [exchange, show c.reader.readBlock = (.ok [], c.reader.readBlock.2) from Prod.ext h rfl]

theorem exchange_of_block {block : Block} (h : c.reader.readBlock.1 = .ok block)
    (hne : block ≠ []) :
    exchange mapper c
      = ((reply mapper block { c with reader := c.reader.readBlock.2 }).1.map fun _ => true,
        (reply mapper block { c with reader := c.reader.readBlock.2 }).2) := by
  rw [exchange, show c.reader.readBlock = (.ok block, c.reader.readBlock.2) from Prod.ext h rfl]
  cases block with
  | nil => exact absurd rfl hne
  | cons message others =>
      simp only
      cases hreply : (reply mapper (message :: others) { c with reader := c.reader.readBlock.2 }).1 with
      | error failure =>
          rw [show reply mapper (message :: others) _ = (.error failure, _) from
            Prod.ext hreply rfl]
          rfl
      | ok done =>
          rw [show reply mapper (message :: others) _ = (.ok (), _) from Prod.ext hreply rfl]
          rfl

theorem run_of_true (h : (exchange mapper c).1 = .ok true) :
    run mapper c = run mapper (exchange mapper c).2 := by
  rw [run]
  split <;> simp_all

theorem run_of_false (h : (exchange mapper c).1 = .ok false) :
    run mapper c = (.ok (), (exchange mapper c).2.enter .closed) := by
  rw [run]
  split <;> simp_all

theorem run_of_error {failure : Failure} (h : (exchange mapper c).1 = .error failure) :
    run mapper c = (.error failure, (exchange mapper c).2.enter .failed) := by
  rw [run]
  split <;> simp_all

end ModuleMapper.Connection
