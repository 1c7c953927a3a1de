import ModuleMapper.Proofs.Answering
import ModuleMapper.Proofs.Exchanges

/-!
# History — what happens to a session, message by message

  A caller exchanges single blocks, runs, and has blocks answered that it did not read from the stream
  (`Call`), and is told how it went (`Report`).  `history` lists what happens to the session in the course
  of such calls: every message that is handled, with the session before and after it, and every end of a
  run.

  A history leaves nothing out.  Its events follow one another from the session before the first call to
  the session behind the last one, and each is what answering a message or ending a run makes of the
  session before it (`follow_history`).
-/

namespace ModuleMapper

/-- What happens to a session. -/
inductive Event (σ : Type) where
  /-- A message was handled, whether it got an answer or not. -/
  | handled (message : Message) (before after : Session σ)
  /-- A run came to its end. -/
  | returned (before after : Session σ)

namespace Event

variable {σ : Type}

def before : Event σ → Session σ
  | handled _ before _ | returned before _ => before

def after : Event σ → Session σ
  | handled _ _ after | returned _ after => after

def isReturn : Event σ → Bool
  | handled .. => false
  | returned .. => true

/-- Events that follow one another from a session to a session. -/
inductive Follow (mapper : Mapper σ) : Session σ → List (Event σ) → Session σ → Prop where
  | nil (s : Session σ) : Follow mapper s [] s
  | handled {message : Message} {s t : Session σ} {events : List (Event σ)} :
      Follow mapper (Session.answer mapper message s).2 events t →
      Follow mapper s (.handled message s (Session.answer mapper message s).2 :: events) t
  | returned {phase : Phase} {s t : Session σ} {events : List (Event σ)} :
      phase = .closed ∨ phase = .failed → Follow mapper { s with phase } events t →
      Follow mapper s (.returned s { s with phase } :: events) t

variable {mapper : Mapper σ} {s t : Session σ}

/-- What follows from a session through another one passes this one on the way. -/
theorem follow_append {first second : List (Event σ)} :
    Follow mapper s (first ++ second) t
      ↔ ∃ between, Follow mapper s first between ∧ Follow mapper between second t := by
  constructor
  · intro h
    induction first generalizing s with
    | nil => exact ⟨s, .nil s, h⟩
    | cons event first ih =>
        cases h with
        | handled hrest =>
            obtain ⟨between, hfirst, hsecond⟩ := ih hrest
            exact ⟨between, .handled hfirst, hsecond⟩
        | returned hphase hrest =>
            obtain ⟨between, hfirst, hsecond⟩ := ih hrest
            exact ⟨between, .returned hphase hfirst, hsecond⟩
  · rintro ⟨between, hfirst, hsecond⟩
    induction hfirst with
    | nil => exact hsecond
    | handled _ ih => exact .handled (ih hsecond)
    | returned hphase _ ih => exact .returned hphase (ih hsecond)

end Event

/-! ## The events of a block -/

namespace Session

variable {σ : Type}

/-- The messages of a block that are handled, up to the first that gets no answer. -/
def handlings (mapper : Mapper σ) : Block → Session σ → List (Event σ)
  | [], _ => []
  | message :: others, s =>
      .handled message s (answer mapper message s).2 ::
        match (answer mapper message s).1 with
        | .error _ => []
        | .ok _ => handlings mapper others (answer mapper message s).2

/-- Behind messages that are answered, the others are handled as those of a block of their own. -/
theorem handlings_append {mapper : Mapper σ} {first replies : Block} {s : Session σ}
    (h : (answerAll mapper first s).1 = .ok replies) (second : Block) :
    handlings mapper (first ++ second) s
      = handlings mapper first s ++ handlings mapper second (answerAll mapper first s).2 := by
  induction first generalizing s replies with
  | nil => rfl
  | cons message others ih =>
      obtain ⟨response, rest, hanswer, hothers, -⟩ := answers_of_answerAll h
      rw [List.cons_append, handlings, handlings, answerAll_of_ok hanswer, hanswer]
      simp only
      rw [ih hothers, List.cons_append]

/-- Handling the messages of a block one after another is what answering it does to a session. -/
theorem follow_handlings (mapper : Mapper σ) (block : Block) (s : Session σ) :
    Event.Follow mapper s (handlings mapper block s) (answerAll mapper block s).2 := by
  induction block generalizing s with
  | nil => exact .nil s
  | cons message others ih =>
      rw [handlings]
      cases hanswer : (answer mapper message s).1 with
      | error failure =>
          rw [answerAll_of_error hanswer]
          exact .handled (.nil _)
      | ok response =>
          rw [answerAll_of_ok hanswer]
          exact .handled (ih _)

end Session

/-! ## The events of calls -/

/-- What can be asked of a connection. -/
inductive Call where
  /-- Serve the next block. -/
  | exchange
  /-- Serve blocks until the client closes the stream or something fails. -/
  | run
  /-- Answer a block without reading or writing. -/
  | answer (block : Block)

/-- What a call reports to its caller. -/
inductive Report where
  | exchanged (outcome : Except Failure Bool)
  | returned (outcome : Except Failure Unit)
  | answered (outcome : Except Failure Block)

namespace Connection

variable {σ ω : Type} [Sink ω]

/-- The events of an exchange. -/
def exchangeEvents (mapper : Mapper σ) (c : Connection σ ω) : List (Event σ) :=
  match c.reader.readBlock.1 with
  | .error _ => []
  | .ok block => Session.handlings mapper block c.session

/-- The events of a run: those of its exchanges, and its end. -/
def runEvents (mapper : Mapper σ) (c : Connection σ ω) : List (Event σ) :=
  match _ : (exchange mapper c).1 with
  | .ok true => exchangeEvents mapper c ++ runEvents mapper (exchange mapper c).2
  | _ => exchangeEvents mapper c ++ [.returned (exchange mapper c).2.session (run mapper c).2.session]
termination_by c.reader.remaining
decreasing_by exact remaining_exchange_lt (by assumption)

/-- What a call makes of a connection. -/
def perform (mapper : Mapper σ) (c : Connection σ ω) : Call → Connection σ ω
  | .exchange => (exchange mapper c).2
  | .run => (run mapper c).2
  | .answer block => { c with session := (Session.answerAll mapper block c.session).2 }

/-- What a call reports. -/
def report (mapper : Mapper σ) (c : Connection σ ω) : Call → Report
  | .exchange => .exchanged (exchange mapper c).1
  | .run => .returned (run mapper c).1
  | .answer block => .answered (Session.answerAll mapper block c.session).1

/-- The events of a call. -/
def events (mapper : Mapper σ) (c : Connection σ ω) : Call → List (Event σ)
  | .exchange => exchangeEvents mapper c
  | .run => runEvents mapper c
  | .answer block => Session.handlings mapper block c.session

/-- What calls make of a connection, one after another. -/
def performAll (mapper : Mapper σ) : List Call → Connection σ ω → Connection σ ω
  | [], c => c
  | call :: calls, c => performAll mapper calls (c.perform mapper call)

/-- What calls report, one after another. -/
def reports (mapper : Mapper σ) : List Call → Connection σ ω → List Report
  | [], _ => []
  | call :: calls, c => c.report mapper call :: reports mapper calls (c.perform mapper call)

/-- The events of calls, one after another. -/
def history (mapper : Mapper σ) : List Call → Connection σ ω → List (Event σ)
  | [], _ => []
  | call :: calls, c => c.events mapper call ++ history mapper calls (c.perform mapper call)

theorem follow_exchangeEvents (mapper : Mapper σ) (c : Connection σ ω) :
    Event.Follow mapper c.session (exchangeEvents mapper c) (exchange mapper c).2.session := by
  unfold exchangeEvents
  cases hblock : c.reader.readBlock.1 with
  | error failure =>
      rw [exchange_of_error hblock]
      exact .nil _
  | ok block =>
      by_cases hend : block = []
      · subst hend
        rw [exchange_of_end hblock]
        exact .nil _
      · rw [exchange_of_block hblock hend]
        show Event.Follow mapper _ _ (reply mapper block _).2.session
        rw [session_reply]
        exact Session.follow_handlings mapper block c.session

/-- Induction on the exchanges of a run; the last event is its end. -/
theorem follow_runEvents (mapper : Mapper σ) (c : Connection σ ω) :
    Event.Follow mapper c.session (runEvents mapper c) (run mapper c).2.session := by
  fun_induction runEvents mapper c with
  | case1 c hserved ih =>
      -- a block was served, and the run goes on
      rw [run_of_true hserved]
      exact Event.follow_append.mpr ⟨_, follow_exchangeEvents mapper c, ih⟩
  | case2 c hserved =>
      -- the run is over: the client has closed the stream, or something has failed
      refine Event.follow_append.mpr ⟨_, follow_exchangeEvents mapper c, ?_⟩
      cases hexchange : (exchange mapper c).1 with
      | error failure =>
          rw [run_of_error hexchange]
          exact .returned (Or.inr rfl) (.nil _)
      | ok served =>
          cases served with
          | true => exact absurd hexchange hserved
          | false =>
              rw [run_of_false hexchange]
              exact .returned (Or.inl rfl) (.nil _)

theorem follow_events (mapper : Mapper σ) (c : Connection σ ω) (call : Call) :
    Event.Follow mapper c.session (c.events mapper call) (c.perform mapper call).session := by
  cases call with
  | exchange => exact follow_exchangeEvents mapper c
  | run => exact follow_runEvents mapper c
  | answer block => exact Session.follow_handlings mapper block c.session

/-- **A history leads from the session before the first call to the session behind the last one.** -/
theorem follow_history (mapper : Mapper σ) (calls : List Call) (c : Connection σ ω) :
    Event.Follow mapper c.session (history mapper calls c) (performAll mapper calls c).session := by
  induction calls generalizing c with
  | nil => exact .nil _
  | cons call calls ih =>
      exact Event.follow_append.mpr ⟨_, follow_events mapper c call, ih (c.perform mapper call)⟩

end Connection

end ModuleMapper
