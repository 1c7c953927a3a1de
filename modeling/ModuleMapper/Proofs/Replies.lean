import Mathlib.Data.List.Forall2
import ModuleMapper.Proofs.Exchanges
import ModuleMapper.Proofs.LocalFailures
import ModuleMapper.Proofs.RoundTrip
import ModuleMapper.Proofs.Writing

/-!
# Replies — one block for every block, one message for every message

  With a local compiler and an open output a run answers the blocks of its reader one after
  another, up to the first that holds a message without words (`Reader.served`).  Every reply block has
  the messages of its request block, one for one (`Message.RepliedBy`).

  `List.Forall₂` makes order and number part of the statement.  What is written is read back as the reply
  blocks whatever their texts are, since the encoding takes any bytes (`exists_blocks_of_encoded`).
-/

namespace ModuleMapper

open Wire

/-! ## Messages -/

/-- The message that acknowledges a handshake. -/
def Message.acknowledgment : Message :=
  [Bytes.ofString "HELLO", Bytes.ofString "1", Bytes.ofString "gcc-module-cmi-builder",
    Bytes.ofString "0"]

/-- What a reply has to do with its request: a handshake is acknowledged, and nothing else is; anything
    else gets a path or an error, which is a tag and one word. -/
structure Message.RepliedBy (request reply : Message) : Prop where
  acknowledged : reply = acknowledgment ↔ request.isGreeting = true
  otherwise : request.isGreeting = false →
    ∃ text, reply = [Bytes.ofString "PATHNAME", text] ∨ reply = [Bytes.ofString "ERROR", text]

theorem Response.toMessage_acknowledgment :
    Response.acknowledgment.toMessage = Message.acknowledgment := by decide

/-- An answer is written as the reply that it has to be. -/
theorem Message.Answered.repliedBy {request : Message} {response : Response}
    (h : request.Answered response) : request.RepliedBy response.toMessage := by
  unfold Message.Answered at h
  by_cases hgreeting : request.isGreeting = true
  · rw [if_pos hgreeting] at h
    subst h
    refine ⟨iff_of_true Response.toMessage_acknowledgment hgreeting, ?_⟩
    intro hother
    cases hgreeting.symm.trans hother
  · rw [if_neg hgreeting] at h
    rcases h with ⟨path, rfl⟩ | ⟨text, rfl⟩
    · refine ⟨iff_of_false ?_ hgreeting, fun _ => ⟨path, Or.inl rfl⟩⟩
      intro hsame
      cases congrArg List.length hsame
    · refine ⟨iff_of_false ?_ hgreeting, fun _ => ⟨Bytes.ofString text, Or.inr rfl⟩⟩
      intro hsame
      cases congrArg List.length hsame

/-! ## Blocks -/

/-- Does every message of a block have a word? -/
def Block.isWordy (block : Block) : Bool := block.all fun message => !message.isEmpty

/-- A block is wordy if none of its messages is empty. -/
theorem Block.isWordy_iff {block : Block} :
    block.isWordy = true ↔ ∀ message ∈ block, message ≠ [] := by
  simp only [Block.isWordy, List.all_eq_true, Bool.not_eq_true', List.isEmpty_eq_false_iff]

namespace Session

variable {σ : Type} {mapper : Mapper σ}

/-- A block of messages with words gets a reply for each. -/
theorem answerAll_of_local (hcompiler : mapper.compiler.Local) {block : Block}
    (hwordy : block.isWordy = true) (s : Session σ) :
    ∃ replies, (answerAll mapper block s).1 = .ok replies
      ∧ List.Forall₂ Message.RepliedBy block replies := by
  induction block generalizing s with
  | nil => exact ⟨[], rfl, .nil⟩
  | cons message others ih =>
      rw [Block.isWordy_iff, List.forall_mem_cons, ← Block.isWordy_iff] at hwordy
      obtain ⟨hne, hothers⟩ := hwordy
      obtain ⟨response, hresponse, hanswered⟩ := answer_of_local hcompiler hne s
      obtain ⟨replies, hreplies, hall⟩ := ih hothers (answer mapper message s).2
      refine ⟨response.toMessage :: replies, ?_, .cons hanswered.repliedBy hall⟩
      rw [answerAll_of_ok hresponse, hreplies]
      rfl

/-- A message without words takes the reply of its block away. -/
theorem answerAll_of_not_isWordy (hcompiler : mapper.compiler.Local) {block : Block}
    (hwordy : block.isWordy = false) (s : Session σ) :
    (answerAll mapper block s).1 = .error .emptyMessage := by
  induction block generalizing s with
  | nil => cases hwordy
  | cons message others ih =>
      cases message with
      | nil => rfl
      | cons word words =>
          have hothers : Block.isWordy others = false := hwordy
          obtain ⟨response, hresponse, -⟩ :=
            answer_of_local hcompiler (List.cons_ne_nil word words) s
          rw [answerAll_of_ok hresponse, ih hothers]
          rfl

end Session

/-! ## Runs -/

namespace Wire.Reader

/-- The blocks of a reader up to the first that holds a message without words. -/
def served (r : Reader) : List Block := r.blocks.1.takeWhile Block.isWordy

theorem served_of_error {r : Reader} {failure : Failure} (h : r.readBlock.1 = .error failure) :
    r.served = [] := by
  rw [served, blocks]
  split <;> simp_all

theorem served_of_end {r : Reader} (h : r.readBlock.1 = .ok []) : r.served = [] := by
  rw [served, blocks]
  split <;> simp_all

theorem served_of_block {r : Reader} {block : Block} (h : r.readBlock.1 = .ok block)
    (hne : block ≠ []) :
    r.served = if block.isWordy then block :: r.readBlock.2.served else [] := by
  rw [served, blocks]
  split <;> simp_all [served, List.takeWhile_cons]

end Wire.Reader

namespace Connection

variable {σ ω : Type} [sink : Sink ω] {taken : ω → Bytes} {sound : ω → Prop} {mapper : Mapper σ}
  {c : Connection σ ω}

/-- With an open output, a block of messages with words is answered by a block that replies to it. -/
theorem reply_of_local (hcompiler : mapper.compiler.Local) (hopen : sink.Open taken sound)
    (c : Connection σ ω) (hsound : sound c.output) {block : Block} (hwordy : block.isWordy = true) :
    (reply mapper block c).1 = .ok () ∧ sound (reply mapper block c).2.output
      ∧ ∃ replies, List.Forall₂ Message.RepliedBy block replies
        ∧ taken (reply mapper block c).2.output = taken c.output ++ Block.encode replies := by
  obtain ⟨replies, hreplies, hall⟩ := Session.answerAll_of_local hcompiler hwordy c.session
  obtain ⟨hsent, htaken, hstill⟩ := hopen.send replies hsound
  rw [reply_of_answers hreplies]
  exact ⟨hsent, hstill, replies, hall, htaken⟩

/-- A block with a message without words is answered by nothing. -/
theorem reply_of_not_isWordy (hcompiler : mapper.compiler.Local) (c : Connection σ ω) {block : Block}
    (hwordy : block.isWordy = false) :
    (reply mapper block c).1 = .error .emptyMessage
      ∧ (reply mapper block c).2.output = c.output := by
  have hfailure := Session.answerAll_of_not_isWordy hcompiler hwordy c.session
  rw [reply_of_no_answers hfailure]
  exact ⟨rfl, rfl⟩

/-- **A run writes one reply block for every block that is served.**  Induction on the blocks of the
    reader: an exchange takes one of them off and writes its reply behind what was written before. -/
theorem taken_run (hcompiler : mapper.compiler.Local) (hopen : sink.Open taken sound)
    (hsound : sound c.output) :
    ∃ replies, List.Forall₂ (List.Forall₂ Message.RepliedBy) c.reader.served replies
      ∧ (∀ reply ∈ replies, reply ≠ [])
      ∧ taken (run mapper c).2.output = taken c.output ++ replies.flatMap Block.encode := by
  generalize hreader : c.reader = r
  induction r using Reader.blocks.induct generalizing c with
  | case1 r failure hblock =>
      subst hreader
      have hexchange : exchange mapper c = _ := exchange_of_error hblock
      rw [run_of_error (congrArg Prod.fst hexchange), hexchange, Reader.served_of_error hblock]
      exact ⟨[], .nil, List.forall_mem_nil _, (List.append_nil _).symm⟩
  | case2 r hblock =>
      subst hreader
      have hexchange : exchange mapper c = _ := exchange_of_end hblock
      rw [run_of_false (congrArg Prod.fst hexchange), hexchange, Reader.served_of_end hblock]
      exact ⟨[], .nil, List.forall_mem_nil _, (List.append_nil _).symm⟩
  | case3 r block hblock hne _ _ _ _ ih =>
      subst hreader
      -- the reader of the rest is that of the connection behind the exchange
      have hexchange : exchange mapper c = _ := exchange_of_block hblock hne
      rw [Reader.served_of_block hblock hne]
      by_cases hwordy : block.isWordy = true
      · rw [if_pos hwordy]
        obtain ⟨hdone, hstill, reply, hreply, htaken⟩ :=
          reply_of_local hcompiler hopen { c with reader := c.reader.readBlock.2 } hsound hwordy
        rw [hdone] at hexchange
        rw [run_of_true (congrArg Prod.fst hexchange), hexchange]
        obtain ⟨replies, hreplies, hfull, hrest⟩ := ih hstill (reader_reply mapper block _)
        have hnonempty : reply ≠ [] := by
          rintro rfl
          exact hne (List.forall₂_nil_right_iff.mp hreply)
        refine ⟨reply :: replies, .cons hreply hreplies,
          List.forall_mem_cons.mpr ⟨hnonempty, hfull⟩, ?_⟩
        rw [hrest, htaken, List.flatMap_cons, List.append_assoc]
      · rw [if_neg hwordy]
        obtain ⟨hfailed, hsame⟩ := reply_of_not_isWordy hcompiler
          { c with reader := c.reader.readBlock.2 } (by simpa using hwordy)
        rw [hfailed] at hexchange
        rw [run_of_error (congrArg Prod.fst hexchange), hexchange]
        refine ⟨[], .nil, List.forall_mem_nil _, ?_⟩
        rw [List.flatMap_nil, List.append_nil]
        exact congrArg taken hsame

/-- A client that asks twice, then sends a message without words, and asks again.  Its replies are taken
    byte by byte. -/
def hastyClient : Connection Unit where
  reader := { stream := {
    rest := Bytes.ofString "HELLO 1 GCC '' ;\nMODULE-EXPORT 'a;b'\nMODULE-REPO ;\n\nMODULE-REPO\n"
    chunk := 3 } }
  output := { atOnce := some 1 }
  session := { workspace := Workspace.blank }

/-- **What a run writes is read as one block for every block that it serves.**  Whatever the session and
    the files are, and whatever is asked: with a local compiler and an open output, a reader of the bytes
    that a run adds to its output gets as many blocks as are served, and then the end of the stream.  Each
    of them has a reply for each message, in order. -/
theorem blocks_written_run (hcompiler : mapper.compiler.Local) (hopen : sink.Open taken sound)
    (hsound : sound c.output) :
    ∃ bytes replies, taken (run mapper c).2.output = taken c.output ++ bytes
      ∧ (∀ s : InputStream, s.Calm → s.rest = bytes →
          ∃ last, Reader.blocks { stream := s } = (replies, none, last))
      ∧ List.Forall₂ (List.Forall₂ Message.RepliedBy) c.reader.served replies := by
  obtain ⟨replies, hreplies, hfull, htaken⟩ := taken_run hcompiler hopen hsound
  refine ⟨replies.flatMap Block.encode, replies, htaken, ?_, hreplies⟩
  intro s hs hrest
  obtain ⟨last, hread, -⟩ := exists_blocks_of_encoded hfull hs hrest
  exact ⟨last, hread⟩

theorem blocks_written_run_hastyClient :
    Mapper.idle.compiler.Local ∧ hastyClient.output.Open ∧ hastyClient.reader.served.length = 1
      ∧ ∃ bytes replies,
        (run Mapper.idle hastyClient).2.output.written = hastyClient.output.written ++ bytes
          ∧ (∀ s : InputStream, s.Calm → s.rest = bytes →
              ∃ last, Reader.blocks { stream := s } = (replies, none, last))
          ∧ List.Forall₂ (List.Forall₂ Message.RepliedBy) hastyClient.reader.served replies := by
  have hopen : hastyClient.output.Open :=
    ⟨rfl, fun most hmost => by rw [← Option.some.inj hmost]; decide, rfl⟩
  exact ⟨Mapper.local_idle, hopen, by decide +kernel,
    blocks_written_run Mapper.local_idle Sink.open_ofStream hopen⟩

end Connection

end ModuleMapper
