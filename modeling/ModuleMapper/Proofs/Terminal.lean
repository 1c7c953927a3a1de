import ModuleMapper.Proofs.Clients
import ModuleMapper.Proofs.Settling
import ModuleMapper.Proofs.WholeReplies

/-!
# Terminal — what the end of a run puts an end to

  A session that is closed or failed refuses everything but a handshake, so that behind the end of a run
  nothing is done for the client unless it shakes hands again (`Event.refused_of_follow`).

  Behind a run that was closed the reader gives the end of the stream again and again, and behind one that
  has failed it may be mute: then whatever is called leaves session and output as they are
  (`terminal_of_run`).  A reader is mute behind bytes that are no token, and inside a quote that the end of
  the stream leaves open.  Behind any other failure it goes on to give blocks, or the end of the stream,
  and these are served as if nothing had happened (`not_terminal_of_run`).
-/

namespace ModuleMapper

open Wire

variable {σ : Type}

/-! ## Refusals -/

/-- A run has come to its end, and nothing has been said since. -/
def Session.IsOver (s : Session σ) : Prop := s.phase = .closed ∨ s.phase = .failed

theorem Session.IsOver.not_ready {s : Session σ} (h : s.IsOver) : s.phase ≠ .ready := by
  intro hready
  rcases h with hclosed | hfailed
  · cases hclosed.symm.trans hready
  · cases hfailed.symm.trans hready

/-- A message that is handled changes nothing, and gets a refusal if it has words. -/
def Event.Refused (mapper : Mapper σ) : Event σ → Prop
  | .handled message before after =>
      after = before
        ∧ ((Session.answer mapper message before).1 = .error .emptyMessage
          ∨ (Session.answer mapper message before).1 = .ok (.error message.refusal))
  | .returned .. => True

namespace Session

variable {mapper : Mapper σ} {s : Session σ}

/-- A session that is not ready refuses a message that announces nobody. -/
theorem refused_of_not_ready (mapper : Mapper σ) (hphase : s.phase ≠ .ready) {message : Message}
    (hclient : message.client? = none) :
    (answer mapper message s).2 = s
      ∧ ((answer mapper message s).1 = .error .emptyMessage
        ∨ (answer mapper message s).1 = .ok (.error message.refusal)) := by
  by_cases hne : message = []
  · subst hne
    exact ⟨rfl, Or.inl rfl⟩
  · rw [answer_of_not_ready hphase hne (Message.isGreeting_of_client?_eq_none hclient)]
    exact ⟨rfl, Or.inr rfl⟩

/-- A block that announces nobody leaves a session that is not ready as it is. -/
theorem answerAll_of_quiet (hphase : s.phase ≠ .ready) {block : Block}
    (hquiet : ∀ event ∈ handlings mapper block s, event.client? = none) :
    (answerAll mapper block s).2 = s := by
  induction block with
  | nil => rfl
  | cons message others ih =>
      rw [handlings, List.forall_mem_cons] at hquiet
      obtain ⟨hclient, hothers⟩ := hquiet
      obtain ⟨hsame, -⟩ := refused_of_not_ready mapper hphase hclient
      cases hanswer : (answer mapper message s).1 with
      | error failure => rw [answerAll_of_error hanswer, hsame]
      | ok response =>
          rw [hanswer, hsame] at hothers
          rw [answerAll_of_ok hanswer, hsame]
          exact ih hothers

end Session

/-- **A session that is over does nothing until somebody is announced.**  Induction on the events: runs may
    come to their ends again, and everything else is refused. -/
theorem Event.refused_of_follow {mapper : Mapper σ} {s t : Session σ} {events : List (Event σ)}
    (h : Follow mapper s events t) (hover : s.IsOver)
    (hquiet : ∀ event ∈ events, event.client? = none) :
    t.IsOver ∧ t.workspace = s.workspace ∧ ∀ event ∈ events, event.Refused mapper := by
  induction h with
  | nil s => exact ⟨hover, rfl, List.forall_mem_nil _⟩
  | @handled message s t events hfollow ih =>
      rw [List.forall_mem_cons] at hquiet
      obtain ⟨hclient, hlater⟩ := hquiet
      have hrefused := Session.refused_of_not_ready mapper hover.not_ready hclient
      rw [hrefused.1] at ih
      obtain ⟨hstill, hsame, hall⟩ := ih hover hlater
      exact ⟨hstill, hsame, List.forall_mem_cons.mpr ⟨hrefused, hall⟩⟩
  | @returned phase s t events hphase hfollow ih =>
      rw [List.forall_mem_cons] at hquiet
      obtain ⟨hstill, hsame, hall⟩ := ih hphase hquiet.2
      exact ⟨hstill, hsame, List.forall_mem_cons.mpr ⟨trivial, hall⟩⟩

/-! ## The end of a run -/

/-- Does the caller hear that the client has closed the stream? -/
def Report.isCleanEnd : Report → Bool
  | exchanged (.ok false) | returned (.ok ()) => true
  | exchanged _ | returned _ | answered _ => false

namespace Connection

variable {ω : Type} [Sink ω] {mapper : Mapper σ} {c : Connection σ ω}

theorem reader_exchange (mapper : Mapper σ) (c : Connection σ ω) :
    (exchange mapper c).2.reader = c.reader.readBlock.2 := by
  cases hblock : c.reader.readBlock.1 with
  | error failure => rw [exchange_of_error hblock]
  | ok block =>
      by_cases hne : block = []
      · subst hne
        rw [exchange_of_end hblock]
      · rw [exchange_of_block hblock hne]
        exact reader_reply mapper block _

/-- An exchange finds the stream closed only if its reader does. -/
theorem readBlock_of_exchange_false (h : (exchange mapper c).1 = .ok false) :
    c.reader.readBlock.1 = .ok [] := by
  cases hblock : c.reader.readBlock.1 with
  | error failure =>
      rw [exchange_of_error hblock] at h
      cases h
  | ok block =>
      by_cases hne : block = []
      · rw [hne]
      · rw [exchange_of_block hblock hne] at h
        cases hreply : (reply mapper block { c with reader := c.reader.readBlock.2 }).1 with
        | error failure =>
            rw [hreply] at h
            cases h
        | ok done =>
            rw [hreply] at h
            cases h

/-- A run ends with an exchange that serves no block. -/
theorem exists_last_exchange (mapper : Mapper σ) (c : Connection σ ω) :
    ∃ last : Connection σ ω, run mapper c = run mapper last ∧ (exchange mapper last).1 ≠ .ok true := by
  fun_induction run mapper c with
  | case1 c hserved ih => exact ih
  | case2 c hend => exact ⟨c, (run_of_false hend).symm, fun heq => by cases hend.symm.trans heq⟩
  | case3 c failure hfailed =>
      exact ⟨c, (run_of_error hfailed).symm, fun heq => by cases hfailed.symm.trans heq⟩

/-- A run that succeeds leaves a reader behind that gives the end of the stream and stays as it is. -/
theorem closed_of_run (h : (run mapper c).1 = .ok ()) :
    (run mapper c).2.session.phase = .closed
      ∧ (run mapper c).2.reader.readBlock = (.ok [], (run mapper c).2.reader) := by
  obtain ⟨last, hsame, hlast⟩ := exists_last_exchange mapper c
  rw [hsame] at h ⊢
  cases hexchange : (exchange mapper last).1 with
  | error failure =>
      rw [run_of_error hexchange] at h
      cases h
  | ok served =>
      cases served with
      | true => exact absurd hexchange hlast
      | false =>
          rw [run_of_false hexchange]
          refine ⟨rfl, ?_⟩
          show (exchange mapper last).2.reader.readBlock = (.ok [], (exchange mapper last).2.reader)
          rw [reader_exchange]
          exact Reader.readBlock_again_of_end (readBlock_of_exchange_false hexchange)

/-- A run that fails does so with its last exchange. -/
theorem failed_of_run {failure : Failure} (h : (run mapper c).1 = .error failure) :
    (run mapper c).2.session.phase = .failed
      ∧ ∃ last : Connection σ ω, (exchange mapper last).1 = .error failure
        ∧ (run mapper c).2.reader = last.reader.readBlock.2 := by
  obtain ⟨last, hsame, hlast⟩ := exists_last_exchange mapper c
  rw [hsame] at h ⊢
  cases hexchange : (exchange mapper last).1 with
  | error cause =>
      rw [run_of_error hexchange] at h ⊢
      injection h with hcause
      subst hcause
      exact ⟨rfl, last, hexchange, reader_exchange mapper last⟩
  | ok served =>
      cases served with
      | true => exact absurd hexchange hlast
      | false =>
          rw [run_of_false hexchange] at h
          cases h

/-- With a local compiler, an exchange that fails neither at a message without words nor at a stream's
    failure has failed to read. -/
theorem readBlock_of_exchange_error (hcompiler : mapper.compiler.Local) {failure : Failure}
    (h : (exchange mapper c).1 = .error failure) (hempty : failure ≠ .emptyMessage)
    (hstream : ∀ cause, failure ≠ .stream cause) : c.reader.readBlock.1 = .error failure := by
  rcases (allOrNothing mapper c).otherwise failure h with hread | ⟨block, hblock, hstopped | hsent⟩
  · exact hread
  · obtain ⟨earlier, message, later, hstops⟩ := hstopped
    rcases (allOrNothing mapper c).stopped _ _ _ _ _ hstops with ⟨-, hfailure⟩
      | ⟨hends, name, -, state, files, hcompile⟩
    · exact absurd hfailure hempty
    · rw [hcompiler _ _ state files failure hcompile] at hends
      cases hends
  · obtain ⟨replies, -, hfailed⟩ := hsent
    obtain ⟨cause, hcause⟩ := Sink.stream_of_send hfailed
    exact absurd hcause (hstream cause)

/-- Behind bytes that are no token, and inside a quote that the end of the stream leaves open, nothing more
    is read. -/
theorem mute_of_run (hcompiler : mapper.compiler.Local) {failure : Failure}
    (h : (run mapper c).1 = .error failure)
    (hfailure : (∃ text, failure = .malformed text)
      ∨ failure = .truncated ∧ (run mapper c).2.reader.pending ≠ []) :
    (run mapper c).2.reader.Mute := by
  obtain ⟨-, last, hexchange, hreader⟩ := failed_of_run h
  rcases hfailure with ⟨text, rfl⟩ | ⟨rfl, hpending⟩
  · have hread := readBlock_of_exchange_error hcompiler hexchange Failure.noConfusion
      (fun _ => Failure.noConfusion)
    exact hreader ▸ Reader.mute_of_malformed hread
  · have hread := readBlock_of_exchange_error hcompiler hexchange Failure.noConfusion
      (fun _ => Failure.noConfusion)
    rw [hreader] at hpending ⊢
    exact Reader.mute_of_open_quote hread hpending

/-! ## Calls behind the end -/

/-- Behind the end of the stream, a call does nothing to a session that is closed. -/
theorem perform_of_closed (hend : c.reader.readBlock = (.ok [], c.reader))
    (hphase : c.session.phase = .closed) {call : Call}
    (hquiet : ∀ event ∈ c.events mapper call, event.client? = none) : c.perform mapper call = c := by
  have hexchange : exchange mapper c = (.ok false, c) := by
    rw [exchange_of_end (congrArg Prod.fst hend), hend]
  cases call with
  | exchange =>
      show (exchange mapper c).2 = c
      rw [hexchange]
  | run =>
      show (run mapper c).2 = c
      rw [run_of_false (congrArg Prod.fst hexchange), hexchange, enter, ← hphase]
  | answer block =>
      show { c with session := _ } = c
      rw [Session.answerAll_of_quiet (Session.IsOver.not_ready (Or.inl hphase)) hquiet]

/-- While the reader is mute, a call does nothing to a session that has failed, and reports no clean end. -/
theorem perform_of_mute (hmute : c.reader.Mute) (hphase : c.session.phase = .failed) {call : Call}
    (hquiet : ∀ event ∈ c.events mapper call, event.client? = none) :
    (∃ reader, reader.Mute ∧ c.perform mapper call = { c with reader })
      ∧ (c.report mapper call).isCleanEnd = false := by
  obtain ⟨⟨failure, hread⟩, hstill⟩ := hmute.readBlock
  have hexchange : exchange mapper c = (.error failure, c.listened) := exchange_of_error hread
  cases call with
  | exchange =>
      refine ⟨⟨_, hstill, ?_⟩, ?_⟩
      · show (exchange mapper c).2 = _
        rw [hexchange, listened]
      · rw [report, hexchange]
        rfl
  | run =>
      refine ⟨⟨_, hstill, ?_⟩, ?_⟩
      · show (run mapper c).2 = _
        rw [run_of_error (congrArg Prod.fst hexchange), hexchange, enter, listened, ← hphase]
      · rw [report, run_of_error (congrArg Prod.fst hexchange)]
        rfl
  | answer block =>
      refine ⟨⟨c.reader, hmute, ?_⟩, rfl⟩
      show { c with session := _ } = c
      rw [Session.answerAll_of_quiet (Session.IsOver.not_ready (Or.inr hphase)) hquiet]

/-- Induction on the calls: each leaves the connection as it is. -/
theorem performAll_of_closed (hend : c.reader.readBlock = (.ok [], c.reader))
    (hphase : c.session.phase = .closed) {calls : List Call}
    (hquiet : ∀ event ∈ history mapper calls c, event.client? = none) :
    performAll mapper calls c = c := by
  induction calls with
  | nil => rfl
  | cons call calls ih =>
      rw [history, List.forall_mem_append] at hquiet
      have hsame := perform_of_closed hend hphase hquiet.1
      rw [hsame] at hquiet
      rw [performAll, hsame]
      exact ih hquiet.2

/-- Induction on the calls: each leaves a mute reader behind, and changes nothing else. -/
theorem performAll_of_mute (hmute : c.reader.Mute) (hphase : c.session.phase = .failed)
    {calls : List Call} (hquiet : ∀ event ∈ history mapper calls c, event.client? = none) :
    (∃ reader, performAll mapper calls c = { c with reader })
      ∧ ∀ report ∈ reports mapper calls c, report.isCleanEnd = false := by
  induction calls generalizing c with
  | nil => exact ⟨⟨c.reader, rfl⟩, List.forall_mem_nil _⟩
  | cons call calls ih =>
      rw [history, List.forall_mem_append] at hquiet
      obtain ⟨⟨reader, hstill, hsame⟩, hreport⟩ := perform_of_mute hmute hphase hquiet.1
      rw [hsame] at hquiet
      obtain ⟨⟨last, hlast⟩, hreports⟩ := ih (c := { c with reader }) hstill hphase hquiet.2
      rw [performAll, reports, hsame]
      exact ⟨⟨last, hlast⟩, List.forall_mem_cons.mpr ⟨hreport, hreports⟩⟩

/-- **What the end of a run puts an end to.**  Whatever is called behind a run on any connection, as long as
    no message that is handled announces a client: every message is refused, and the workspace stays as it
    is.  If the run was closed, all of the connection stays as it is.  If it has failed and the reader is
    mute, all but the reader does, and no clean end is reported.  With a local compiler the reader is mute
    behind bytes that are no token, and inside a quote that the end of the stream leaves open. -/
theorem terminal_of_run (mapper : Mapper σ) (c : Connection σ ω) (calls : List Call)
    (hquiet : ∀ event ∈ history mapper calls (run mapper c).2, event.client? = none) :
    ((∀ event ∈ history mapper calls (run mapper c).2, event.Refused mapper)
        ∧ (performAll mapper calls (run mapper c).2).session.workspace
          = (run mapper c).2.session.workspace)
      ∧ ((run mapper c).1 = .ok () →
          (run mapper c).2.session.phase = .closed
            ∧ performAll mapper calls (run mapper c).2 = (run mapper c).2)
      ∧ ∀ failure, (run mapper c).1 = .error failure →
          (run mapper c).2.session.phase = .failed
            ∧ ((run mapper c).2.reader.Mute →
                (∃ reader, performAll mapper calls (run mapper c).2 = { (run mapper c).2 with reader })
                  ∧ ∀ report ∈ reports mapper calls (run mapper c).2, report.isCleanEnd = false)
            ∧ (mapper.compiler.Local →
                (∃ text, failure = .malformed text)
                  ∨ failure = .truncated ∧ (run mapper c).2.reader.pending ≠ [] →
                (run mapper c).2.reader.Mute) := by
  have hover : (run mapper c).2.session.IsOver := by
    cases hrun : (run mapper c).1 with
    | ok done => exact Or.inl (closed_of_run hrun).1
    | error failure => exact Or.inr (failed_of_run hrun).1
  obtain ⟨-, hworkspace, hrefused⟩ :=
    Event.refused_of_follow (follow_history mapper calls (run mapper c).2) hover hquiet
  refine ⟨⟨hrefused, hworkspace⟩, ?_, ?_⟩
  · intro hclosed
    obtain ⟨hphase, hend⟩ := closed_of_run hclosed
    exact ⟨hphase, performAll_of_closed hend hphase hquiet⟩
  · intro failure hfailed
    have hphase := (failed_of_run hfailed).1
    exact ⟨hphase, fun hmute => performAll_of_mute hmute hphase hquiet,
      fun hcompiler => mute_of_run hcompiler hfailed⟩

/-- A client that closes the stream behind its handshake. -/
def partingClient : Connection Unit where
  reader := { stream := { rest := Bytes.ofString "HELLO 1 GCC ''\n" } }
  session := { workspace := Workspace.blank }

/-- A client that sends bytes that are no token, and goes on with a handshake. -/
def garbledClient : Connection Unit where
  reader := { stream := { rest := Bytes.ofString "MODULE-REPO \x7b\nHELLO 1 GCC ''\nMODULE-REPO\n" } }
  session := { workspace := Workspace.blank }

/-- What is called behind the runs of these clients. -/
def laterCalls : List Call := [.exchange, .answer [[Bytes.ofString "MODULE-REPO"]], .run]

/-- Behind its run the parting client is refused, and nothing changes any more.  Neither does anything for
    the garbled client, whose handshake is not read. -/
theorem terminal_of_run_partingClient :
    (run Mapper.idle partingClient).1 = .ok ()
      ∧ (∀ event ∈ history Mapper.idle laterCalls (run Mapper.idle partingClient).2,
          event.client? = none)
      ∧ performAll Mapper.idle laterCalls (run Mapper.idle partingClient).2
          = (run Mapper.idle partingClient).2
      ∧ (∃ text, (run Mapper.idle garbledClient).1 = .error (.malformed text))
      ∧ (∀ event ∈ history Mapper.idle laterCalls (run Mapper.idle garbledClient).2,
          event.client? = none)
      ∧ (∃ reader, performAll Mapper.idle laterCalls (run Mapper.idle garbledClient).2
          = { (run Mapper.idle garbledClient).2 with reader })
      ∧ ∀ report ∈ reports Mapper.idle laterCalls (run Mapper.idle garbledClient).2,
          report.isCleanEnd = false := by
  have hclosed : (run Mapper.idle partingClient).1 = .ok () := by decide +kernel
  have hquiet : ∀ event ∈ history Mapper.idle laterCalls (run Mapper.idle partingClient).2,
      event.client? = none := by
    decide +kernel
  have hfailed : (run Mapper.idle garbledClient).1 = .error (.malformed "\x7b\n") := by decide +kernel
  have hquiet' : ∀ event ∈ history Mapper.idle laterCalls (run Mapper.idle garbledClient).2,
      event.client? = none := by
    decide +kernel
  obtain ⟨-, hstays, -⟩ := terminal_of_run Mapper.idle partingClient laterCalls hquiet
  obtain ⟨-, -, hends⟩ := terminal_of_run Mapper.idle garbledClient laterCalls hquiet'
  obtain ⟨-, hkeeps, hmute⟩ := hends _ hfailed
  obtain ⟨hsame, hreports⟩ := hkeeps (hmute Mapper.local_idle (Or.inl ⟨_, rfl⟩))
  exact ⟨hclosed, hquiet, (hstays hclosed).2, ⟨_, hfailed⟩, hquiet', hsame, hreports⟩

/-- A client that sends a message without words, and goes on with a handshake. -/
def undeterredClient : Connection Unit where
  reader := { stream := { rest := Bytes.ofString "\nHELLO 1 GCC ''\nMODULE-REPO\n" } }
  session := { workspace := Workspace.blank }

/-- **The end of a run is not terminal.**  The run of the undeterred client fails, and another run serves
    it: it is answered, the directory of the repository is made, and the session is closed as if nothing
    had happened.  And a session that is closed is made ready again by a block with a handshake. -/
theorem not_terminal_of_run :
    (run Mapper.idle undeterredClient).1 = .error .emptyMessage
      ∧ (run Mapper.idle undeterredClient).2.session.phase = .failed
      ∧ (reports Mapper.idle [.run] (run Mapper.idle undeterredClient).2).map Report.isCleanEnd = [true]
      ∧ (performAll Mapper.idle [.run] (run Mapper.idle undeterredClient).2).session.phase = .closed
      ∧ (performAll Mapper.idle [.run] (run Mapper.idle undeterredClient).2).output.written
          ≠ (run Mapper.idle undeterredClient).2.output.written
      ∧ (performAll Mapper.idle [.run] (run Mapper.idle undeterredClient).2).session.workspace.files
          ≠ (run Mapper.idle undeterredClient).2.session.workspace.files
      ∧ (run Mapper.idle partingClient).2.session.phase = .closed
      ∧ (performAll Mapper.idle
            [.answer [["HELLO", "1", "GCC", "b"].map Bytes.ofString]]
            (run Mapper.idle partingClient).2).session.phase = .ready := by
  decide +kernel

end Connection

end ModuleMapper
