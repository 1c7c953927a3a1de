import ModuleMapper.Proofs.History
import ModuleMapper.Proofs.LocalFailures

/-!
# Gate — nothing happens before a handshake

  As long as a session is not ready, every message but a handshake is refused, and refusing changes
  nothing of the session (`answer_of_not_ready`).  So the messages of a block in front of its first
  handshake leave no trace, and the rest of the block is answered as if it stood alone (`Gated`).

  A session is ready only if a handshake was handled and no run has come to its end since (`Greeted`).
  Hence the workspace, which holds the files and the journal of compilations, changes only then
  (`handshake_gate`).
-/

namespace ModuleMapper

/-! ## Refusals -/

/-- Why a message is refused before a handshake. -/
def Message.refusal (message : Message) : String :=
  if message.tag? = some (Bytes.ofString "HELLO") then "unsupported handshake format"
  else "message before valid handshake"

namespace Session

variable {σ : Type} {mapper : Mapper σ} {s : Session σ} {message : Message}

/-- Before a handshake all that is said of a request is whether it is a malformed one. -/
theorem serve_of_not_ready (hphase : s.phase ≠ .ready) {request : Request}
    (hrequest : ∀ version compiler build, request ≠ .hello version compiler build) :
    serve mapper request s
      = (.ok (.error (if request.kind? = some .hello then "unsupported handshake format"
          else "message before valid handshake")), s) := by
  have hgate : ∀ serve, s.whenReady serve = (.ok (.error "message before valid handshake"), s) := by
    intro serve
    rw [whenReady, if_neg hphase]
  cases request with
  | hello version compiler build => exact absurd rfl (hrequest version compiler build)
  | repository => exact hgate _
  | moduleExport name => exact hgate _
  | moduleImport name => exact hgate _
  | malformed kind =>
      cases kind with
      | hello => rfl
      | repository | moduleExport | moduleImport => exact hgate _
  | unknown tag => exact hgate _

/-- **A session that is not ready refuses everything but a handshake**, and stays as it is. -/
theorem answer_of_not_ready (hphase : s.phase ≠ .ready) (hne : message ≠ [])
    (hgreeting : message.isGreeting = false) :
    answer mapper message s = (.ok (.error message.refusal), s) := by
  obtain ⟨request, hrequest, hnot⟩ := Request.ofMessage?_of_not_isGreeting hne hgreeting
  rw [answer, hrequest, Message.refusal]
  simp only [serve_of_not_ready hphase hnot, Request.kind?_eq_hello_iff hrequest]

/-- Only a ready session changes its workspace. -/
theorem workspace_answer_of_not_ready (hphase : s.phase ≠ .ready) (message : Message) :
    (answer mapper message s).2.workspace = s.workspace := by
  by_cases hgreeting : message.isGreeting = true
  · obtain ⟨version, compiler, build, hrequest⟩ := Request.ofMessage?_of_isGreeting hgreeting
    rw [answer, hrequest]
    rfl
  · by_cases hne : message = []
    · subst hne
      rfl
    · rw [answer_of_not_ready hphase hne (by simpa using hgreeting)]

theorem phase_whenReady {serve : Session σ → Except Failure Response × Session σ}
    (h : (serve s).2.phase = s.phase) : (s.whenReady serve).2.phase = s.phase := by
  unfold whenReady
  split
  · exact h
  · rfl

/-- Nothing but a handshake changes the phase of a session. -/
theorem phase_answer_of_not_isGreeting (hgreeting : message.isGreeting = false) (s : Session σ) :
    (answer mapper message s).2.phase = s.phase := by
  by_cases hne : message = []
  · subst hne
    rfl
  · obtain ⟨request, hrequest, hnot⟩ := Request.ofMessage?_of_not_isGreeting hne hgreeting
    rw [answer, hrequest]
    cases request with
    | hello version compiler build => exact absurd rfl (hnot version compiler build)
    | repository => exact phase_whenReady rfl
    | moduleExport name => exact phase_whenReady rfl
    | moduleImport name => exact phase_whenReady rfl
    | malformed kind =>
        cases kind with
        | hello => rfl
        | repository | moduleExport | moduleImport => exact phase_whenReady rfl
    | unknown tag => exact phase_whenReady rfl

end Session

/-! ## Blocks -/

namespace Block

/-- The messages of a block in front of its first handshake. -/
def beforeGreeting (block : Block) : Block := block.takeWhile fun message => !message.isGreeting

/-- The messages of a block from its first handshake on. -/
def fromGreeting (block : Block) : Block := block.dropWhile fun message => !message.isGreeting

variable {message : Message}

theorem beforeGreeting_of_isGreeting (h : message.isGreeting = true) (others : Block) :
    beforeGreeting (message :: others) = [] := by
  rw [beforeGreeting, List.takeWhile_cons_of_neg (by simp [h])]

theorem fromGreeting_of_isGreeting (h : message.isGreeting = true) (others : Block) :
    fromGreeting (message :: others) = message :: others := by
  rw [fromGreeting, List.dropWhile_cons_of_neg (by simp [h])]

theorem beforeGreeting_of_not_isGreeting (h : message.isGreeting = false) (others : Block) :
    beforeGreeting (message :: others) = message :: beforeGreeting others := by
  rw [beforeGreeting, List.takeWhile_cons_of_pos (by simp [h]), beforeGreeting]

theorem fromGreeting_of_not_isGreeting (h : message.isGreeting = false) (others : Block) :
    fromGreeting (message :: others) = fromGreeting others := by
  rw [fromGreeting, List.dropWhile_cons_of_pos (by simp [h]), fromGreeting]

end Block

namespace Session

variable {σ : Type} {mapper : Mapper σ} {s : Session σ}

/-- A block in front of a closed gate: what stands before its first handshake is refused and leaves the
    session as it is, and the rest is answered as if it stood alone. -/
structure Gated (mapper : Mapper σ) (block : Block) (s : Session σ) : Prop where
  refused : ∀ message ∈ block.beforeGreeting,
    answer mapper message s = (.ok (.error message.refusal), s)
  untouched : handlings mapper block s
    = block.beforeGreeting.map (fun message => .handled message s s)
      ++ handlings mapper block.fromGreeting s
  replies : answerAll mapper block s
    = ((answerAll mapper block.fromGreeting s).1.map
        (block.beforeGreeting.map (fun message => (Response.error message.refusal).toMessage) ++ ·),
      (answerAll mapper block.fromGreeting s).2)

/-- Induction on the block, up to its first handshake; each message before it is met by the session with
    which the block began. -/
theorem gated_of_not_ready (hphase : s.phase ≠ .ready) {block : Block}
    (hne : ∀ message ∈ block, message ≠ []) : Gated mapper block s := by
  induction block with
  | nil => exact ⟨List.forall_mem_nil _, rfl, rfl⟩
  | cons message others ih =>
      by_cases hgreeting : message.isGreeting = true
      · have hbefore := Block.beforeGreeting_of_isGreeting hgreeting others
        have hfrom := Block.fromGreeting_of_isGreeting hgreeting others
        refine ⟨?_, ?_, ?_⟩
        · rw [hbefore]
          exact List.forall_mem_nil _
        · rw [hbefore, hfrom]
          rfl
        · rw [hbefore, hfrom]
          refine Prod.ext ?_ rfl
          show _ = Except.map id _
          cases (answerAll mapper (message :: others) s).1 <;> rfl
      · have hother : message.isGreeting = false := by simpa using hgreeting
        have hbefore := Block.beforeGreeting_of_not_isGreeting hother others
        have hfrom := Block.fromGreeting_of_not_isGreeting hother others
        have hanswer : answer mapper message s = (.ok (.error message.refusal), s) :=
          answer_of_not_ready hphase (hne message List.mem_cons_self) hother
        obtain ⟨hrefused, huntouched, hreplies⟩ :=
          ih (fun m hm => hne m (List.mem_cons_of_mem _ hm))
        refine ⟨?_, ?_, ?_⟩
        · rw [hbefore]
          exact List.forall_mem_cons.mpr ⟨hanswer, hrefused⟩
        · rw [hbefore, hfrom, handlings, hanswer]
          simp only [huntouched]
          rfl
        · rw [hbefore, hfrom, answerAll_of_ok (congrArg Prod.fst hanswer), hanswer, hreplies]
          refine Prod.ext ?_ rfl
          cases (answerAll mapper (Block.fromGreeting others) s).1 <;> rfl

end Session

/-! ## Histories -/

namespace Event

variable {σ : Type} {mapper : Mapper σ} {s t : Session σ} {events : List (Event σ)}

/-- A handshake was handled, and no run has come to its end since. -/
def Greeted (events : List (Event σ)) : Prop :=
  ∃ earlier message before after later,
    events = earlier ++ .handled message before after :: later
      ∧ message.isGreeting = true ∧ ∀ event ∈ later, event.isReturn = false

theorem Greeted.cons (event : Event σ) (h : Greeted events) : Greeted (event :: events) := by
  obtain ⟨earlier, message, before, after, later, rfl, hgreeting, hlater⟩ := h
  exact ⟨event :: earlier, message, before, after, later, rfl, hgreeting, hlater⟩

/-- **A session is ready only by a handshake.**  If it is ready in the end, it was ready in the beginning
    and no run has come to its end, or a handshake was handled since the last one did.  Induction on
    the events. -/
theorem greeted_of_ready (h : Follow mapper s events t) (hready : t.phase = .ready) :
    Greeted events ∨ s.phase = .ready ∧ ∀ event ∈ events, event.isReturn = false := by
  induction h with
  | nil s => exact Or.inr ⟨hready, List.forall_mem_nil _⟩
  | @handled message s t events _ ih =>
      rcases ih hready with hgreeted | ⟨hphase, hnone⟩
      · exact Or.inl (hgreeted.cons _)
      · -- ready behind this message, which made it so or found it so
        by_cases hgreeting : message.isGreeting = true
        · exact Or.inl ⟨[], message, s, _, events, rfl, hgreeting, hnone⟩
        · rw [Session.phase_answer_of_not_isGreeting (by simpa using hgreeting)] at hphase
          exact Or.inr ⟨hphase, List.forall_mem_cons.mpr ⟨rfl, hnone⟩⟩
  | returned hend _ ih =>
      rcases ih hready with hgreeted | ⟨hphase, -⟩
      · exact Or.inl (hgreeted.cons _)
      · -- a run that is over leaves no session ready
        rcases hend with rfl | rfl
        · cases hphase
        · cases hphase

/-- Only an event of a ready session changes the workspace. -/
theorem ready_of_workspace_ne {event : Event σ} (h : Follow mapper s (event :: events) t)
    (hchange : event.after.workspace ≠ event.before.workspace) : s.phase = .ready := by
  cases h with
  | handled =>
      by_cases hphase : s.phase = .ready
      · exact hphase
      · exact absurd (Session.workspace_answer_of_not_ready hphase _) hchange
  | returned => exact absurd rfl hchange

end Event

namespace Connection

variable {σ ω : Type} [Sink ω] (mapper : Mapper σ) (c : Connection σ ω)

/-- **The handshake gate.**  Whatever is called on a connection that starts by waiting for a handshake,
    and whatever the client sends: as long as the session is not ready, the messages of a block in front
    of its first handshake are refused and change nothing; and in the history of the calls, which leaves
    nothing out, nothing changes the workspace unless a handshake was handled before, and no run has come
    to its end since. -/
theorem handshake_gate (hstart : c.session.phase = .awaitingHandshake) (calls : List Call) :
    ((performAll mapper calls c).session.phase ≠ .ready →
        ∀ block : Block, (∀ message ∈ block, message ≠ []) →
          Session.Gated mapper block (performAll mapper calls c).session)
      ∧ Event.Follow mapper c.session (history mapper calls c) (performAll mapper calls c).session
      ∧ ∀ earlier event later, history mapper calls c = earlier ++ event :: later →
          event.after.workspace ≠ event.before.workspace → Event.Greeted earlier := by
  have hfollow := follow_history mapper calls c
  refine ⟨fun hphase block hne => Session.gated_of_not_ready hphase hne, hfollow, ?_⟩
  intro earlier event later hhistory hchange
  rw [hhistory] at hfollow
  obtain ⟨between, hearlier, hlater⟩ := Event.follow_append.mp hfollow
  have hready := Event.ready_of_workspace_ne hlater hchange
  rcases Event.greeted_of_ready hearlier hready with hgreeted | ⟨hphase, -⟩
  · exact hgreeted
  · rw [hstart] at hphase
    cases hphase

/-- A client that asks for the repository before and after its handshake, the first of which is too
    short. -/
def rashClient : Connection Unit where
  reader := { stream := {
    rest := Bytes.ofString
      "MODULE-REPO ;\nHELLO 1 GCC\nMODULE-IMPORT a ;\nHELLO 1 GCC '' ;\nMODULE-REPO\n" } }
  session := { workspace := Workspace.blank }

/-- After one block the rash client is still refused, and at the end of its run, which made the directory
    of the repository, it is refused again. -/
theorem handshake_gate_rashClient :
    rashClient.session.phase = .awaitingHandshake
      ∧ (performAll Mapper.idle [.exchange] rashClient).session.phase = .awaitingHandshake
      ∧ (performAll Mapper.idle [.exchange, .run] rashClient).session.phase = .closed
      ∧ (performAll Mapper.idle [.exchange, .run] rashClient).session.workspace ≠ .blank
      ∧ Session.Gated Mapper.idle [[Bytes.ofString "MODULE-REPO"]]
          (performAll Mapper.idle [.exchange, .run] rashClient).session
      ∧ ∀ earlier event later,
          history Mapper.idle [.exchange, .run] rashClient = earlier ++ event :: later →
          event.after.workspace ≠ event.before.workspace → Event.Greeted earlier := by
  have hclosed : (performAll Mapper.idle [.exchange, .run] rashClient).session.phase = .closed := by
    decide +kernel
  obtain ⟨hgated, -, hchange⟩ := handshake_gate Mapper.idle rashClient rfl [.exchange, .run]
  refine ⟨rfl, by decide +kernel, hclosed, by decide +kernel, hgated ?_ _ (by decide), hchange⟩
  rw [hclosed]
  decide

end Connection

end ModuleMapper
