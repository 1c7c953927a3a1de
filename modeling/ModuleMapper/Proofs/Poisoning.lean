import ModuleMapper.Proofs.Course
import ModuleMapper.Proofs.History
import ModuleMapper.Proofs.LocalFailures
import ModuleMapper.Proofs.Settling

/-!
# Poisoning — behind bytes that are no token nothing is read

  A reader does not pass bytes that are no token: they stay where they are, and whoever asks again meets
  them again.  So it reports the same failure for ever, and its stream might as well not be there: whatever
  stands in its place is neither asked nor changed (`malformed_for_ever`).

  A connection over such a reader hears no block any more.  All that it still does is to answer the blocks
  that its caller hands to it.
-/

namespace ModuleMapper

namespace Wire.Reader

variable {r : Reader} {text : String}

/-- What is answered to some asks if there is no way past bytes that are no token: the failure, again and
    again, and to an iteration only once, if it is not over already. -/
def refusals (text : String) : (finished : Bool) → List Ask → List Answer
  | _, [] => []
  | finished, .block :: asks => .block (.error (.malformed text)) :: refusals text finished asks
  | true, .step :: asks => .step none :: refusals text true asks
  | false, .step :: asks => .step (some (.error (.malformed text))) :: refusals text true asks

/-- Nothing is delivered with a refusal. -/
theorem delivered_of_mem_refusals {finished : Bool} {asks : List Ask} :
    ∀ answer ∈ refusals text finished asks, answer.delivered = [] := by
  intro answer hanswer
  induction asks generalizing finished with
  | nil => cases hanswer
  | cons ask asks ih =>
      cases ask with
      | block =>
          rcases List.mem_cons.mp hanswer with rfl | hlater
          · rfl
          · exact ih hlater
      | step =>
          cases finished with
          | true =>
              rcases List.mem_cons.mp hanswer with rfl | hlater
              · rfl
              · exact ih hlater
          | false =>
              rcases List.mem_cons.mp hanswer with rfl | hlater
              · rfl
              · exact ih hlater

/-- A reader that stands before bytes that are no token says so, and stays as it is. -/
theorem readBlock_of_standsAt (h : r.StandsAt (.malformed text)) :
    r.readBlock = (.error (.malformed text), r) := by
  obtain ⟨line, hscan, rfl⟩ := h
  exact (settled_of_malformed hscan).readBlock.2 _ rfl

/-- **All that such a reader does is to refuse**, and to note that an iteration is over.  Induction on the
    asks. -/
theorem answers_of_standsAt (h : r.StandsAt (.malformed text)) (asks : List Ask) :
    answers asks r = refusals text r.finished asks
      ∧ after asks r = { r with finished := r.finished || asks.contains .step } := by
  induction asks generalizing r with
  | nil => exact ⟨rfl, by rw [after, List.contains_nil, Bool.or_false]⟩
  | cons ask asks ih =>
      have hread := readBlock_of_standsAt h
      cases ask with
      | block =>
          have hask : r.ask .block = (.block (.error (.malformed text)), r) := by rw [Reader.ask, hread]
          obtain ⟨hanswers, hafter⟩ := ih h
          rw [answers, after, hask, hanswers, hafter]
          exact ⟨rfl, rfl⟩
      | step =>
          have hover : Reader.StandsAt { r with finished := true } (.malformed text) := h
          obtain ⟨hanswers, hafter⟩ := ih hover
          cases hfinished : r.finished with
          | true =>
              have hask : r.ask .step = (.step none, { r with finished := true }) := by
                rw [Reader.ask, iterate, if_pos hfinished, ← hfinished]
              rw [answers, after, hask, hanswers, hafter]
              exact ⟨rfl, rfl⟩
          | false =>
              have hask : r.ask .step
                  = (.step (some (.error (.malformed text))), { r with finished := true }) := by
                rw [Reader.ask, iterate, hfinished, hread]
                rfl
              rw [answers, after, hask, hanswers, hafter]
              exact ⟨rfl, rfl⟩

end Wire.Reader

/-- A call that would have to read is told of the bytes that are no token. -/
def Report.Refuses (text : String) : Report → Prop
  | exchanged outcome => outcome = .error (.malformed text)
  | returned outcome => outcome = .error (.malformed text)
  | answered _ => True

namespace Connection

open Wire

variable {σ ω : Type} [Sink ω] (mapper : Mapper σ) {c : Connection σ ω} {text : String}

/-- What a call makes of a connection whose reader stands before bytes that are no token. -/
theorem perform_of_standsAt (h : c.reader.StandsAt (.malformed text)) (call : Call) :
    (c.report mapper call).Refuses text
      ∧ (c.perform mapper call).reader = c.reader ∧ (c.perform mapper call).output = c.output := by
  have hread := Reader.readBlock_of_standsAt h
  have hexchange : exchange mapper c = (.error (.malformed text), c) := by
    rw [exchange_of_error (congrArg Prod.fst hread), hread]
  cases call with
  | exchange =>
      refine ⟨congrArg Prod.fst hexchange, ?_⟩
      show (exchange mapper c).2.reader = c.reader ∧ (exchange mapper c).2.output = c.output
      rw [hexchange]
      exact ⟨rfl, rfl⟩
  | run =>
      have hrun : run mapper c = (.error (.malformed text), c.enter .failed) := by
        rw [run_of_error (congrArg Prod.fst hexchange), hexchange]
      refine ⟨congrArg Prod.fst hrun, ?_⟩
      show (run mapper c).2.reader = c.reader ∧ (run mapper c).2.output = c.output
      rw [hrun]
      exact ⟨rfl, rfl⟩
  | answer block => exact ⟨trivial, rfl, rfl⟩

/-- Induction on the calls: none gets its reader past the bytes. -/
theorem performAll_of_standsAt (h : c.reader.StandsAt (.malformed text)) (calls : List Call) :
    (∀ report ∈ reports mapper calls c, report.Refuses text)
      ∧ (performAll mapper calls c).reader = c.reader
      ∧ (performAll mapper calls c).output = c.output := by
  induction calls generalizing c with
  | nil => exact ⟨List.forall_mem_nil _, rfl, rfl⟩
  | cons call calls ih =>
      obtain ⟨hreport, hreader, houtput⟩ := perform_of_standsAt mapper h call
      obtain ⟨hreports, hreader', houtput'⟩ := ih (hreader ▸ h)
      exact ⟨List.forall_mem_cons.mpr ⟨hreport, hreports⟩, hreader'.trans hreader,
        houtput'.trans houtput⟩

end Connection

namespace Wire.Reader

open Connection

/-- **Bytes that are no token are the last that a reader looks at.**  When a reader, in whatever state, has
    failed with them, it answers everything with that failure.  Whatever stands on its stream from then on,
    the stream is left as it is: nothing is taken from it, and it is not asked.  And no connection over the
    reader hears a block or writes a reply any more, whatever is called. -/
theorem malformed_for_ever {r : Reader} {first : Ask} {text : String}
    (h : (r.ask first).1.failure? = some (.malformed text)) :
    (∀ (asks : List Ask) (stream : InputStream),
        answers asks { (r.ask first).2 with stream } = refusals text (r.ask first).2.finished asks
          ∧ (∀ answer ∈ answers asks { (r.ask first).2 with stream }, answer.delivered = [])
          ∧ (after asks { (r.ask first).2 with stream }).stream = stream
          ∧ (after asks { (r.ask first).2 with stream }).pending = (r.ask first).2.pending
          ∧ (after asks { (r.ask first).2 with stream }).readBlock.1 = .error (.malformed text))
      ∧ ∀ (σ ω : Type) [Sink ω] (mapper : Mapper σ) (c : Connection σ ω) (calls : List Call),
          c.reader = (r.ask first).2 →
            (∀ report ∈ reports mapper calls c, report.Refuses text)
              ∧ (performAll mapper calls c).reader = (r.ask first).2
              ∧ (performAll mapper calls c).output = c.output
              ∧ course mapper (performAll mapper calls c) = [] := by
  have hstands : (r.ask first).2.StandsAt (.malformed text) := standsAt_ask h
  constructor
  · intro asks stream
    have hother : Reader.StandsAt { (r.ask first).2 with stream } (.malformed text) := hstands
    obtain ⟨hanswers, hafter⟩ := answers_of_standsAt hother asks
    have hstill : (after asks { (r.ask first).2 with stream }).StandsAt (.malformed text) :=
      hafter ▸ hother
    refine ⟨hanswers, ?_, by rw [hafter], by rw [hafter], ?_⟩
    · rw [hanswers]
      exact delivered_of_mem_refusals
    · rw [readBlock_of_standsAt hstill]
  · intro σ ω _ mapper c calls hreader
    obtain ⟨hreports, hsame, houtput⟩ :=
      performAll_of_standsAt mapper (hreader.symm ▸ hstands) calls
    have hread := readBlock_of_standsAt hstands
    rw [← hreader, ← hsame] at hread
    exact ⟨hreports, hsame.trans hreader, houtput, course_of_error (congrArg Prod.fst hread)⟩

/-- A stream that is interrupted, and fails in the middle of a line.  A quoted word goes over two lines,
    bytes that are no token stand behind it, and a handshake stands on the next line. -/
def garbledStream : InputStream where
  rest := Bytes.ofString "MODULE-EXPORT 'a\nb' \x7b\x7d\nHELLO 1 GCC ''\nMODULE-REPO\n"
  chunk := 5
  faults := [⟨3, true, "interrupted"⟩, ⟨21, false, "connection lost"⟩]

/-- The reader of the garbled stream when its first read has failed. -/
def brokenOff : Reader := (readBlock { stream := garbledStream }).2

/-- What is asked of the reader then. -/
def persistentAsks : List Ask := [.block, .step, .step, .block]

/-- The reader has taken a part of the bytes that are no token, and nothing else of their line, so that their
    text is that part for ever.  The handshake is not heard. -/
theorem malformed_for_ever_brokenOff :
    (readBlock { stream := garbledStream }).1 = .error (.stream (.note "connection lost"))
      ∧ brokenOff.readBlock.1 = .error (.malformed "\x7b")
      ∧ answers persistentAsks brokenOff.readBlock.2
        = [.block (.error (.malformed "\x7b")), .step (some (.error (.malformed "\x7b"))), .step none,
          .block (.error (.malformed "\x7b"))]
      ∧ (after persistentAsks brokenOff.readBlock.2).stream = brokenOff.stream
      ∧ course Mapper.idle
          ({ reader := brokenOff.readBlock.2, session := { workspace := Workspace.blank } } :
            Connection Unit) = [] := by
  have hfailed : brokenOff.readBlock.1 = .error (.malformed "\x7b") := by decide +kernel
  have hanswered : (brokenOff.ask .block).1.failure? = some (.malformed "\x7b") := by decide +kernel
  have hstream : brokenOff.readBlock.2.stream = brokenOff.stream := by decide +kernel
  have hiterating : brokenOff.readBlock.2.finished = false := by decide +kernel
  obtain ⟨hasks, hconnections⟩ := malformed_for_ever hanswered
  obtain ⟨hanswers, -, hstill, -, -⟩ := hasks persistentAsks brokenOff.readBlock.2.stream
  obtain ⟨-, -, -, hcourse⟩ := hconnections Unit OutputStream Mapper.idle
    { reader := brokenOff.readBlock.2, session := { workspace := Workspace.blank } } [] rfl
  rw [show (brokenOff.ask .block).2.finished = false from hiterating] at hanswers
  exact ⟨by decide +kernel, hfailed, hanswers, hstill.trans hstream, hcourse⟩

end Wire.Reader

end ModuleMapper
