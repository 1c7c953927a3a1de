import ModuleMapper.Proofs.Gate

/-!
# Clients — whom an answer is for

  A session serves the client that its last handshake announced, and nothing else that is asked, refused or
  compiled in between says otherwise (`client_of_follow`).  Exports and imports name the artifact for that
  client (`path_of_answer`), so they agree with each other and follow the last handshake.

  An export looks at no file.  Once there was a handshake it gets a path for every name that a file can
  have (`answer_export_of_ready`), and it stays so until a run comes to its end (`ready_of_greeted`).
-/

namespace ModuleMapper

/-! ## Announcements -/

namespace Message

/-- The client that a handshake announces. -/
def client? : Message → Option Client
  | tag :: _ :: compiler :: build :: _ =>
      if tag = Bytes.ofString "HELLO" then some { compiler, build } else none
  | _ => none

/-- A message asks where an artifact is, or will be. -/
def AsksFor (message : Message) (name : Word) : Prop :=
  Request.ofMessage? message = some (.moduleExport name)
    ∨ Request.ofMessage? message = some (.moduleImport name)

variable {message : Message}

/-- What announces a client is a handshake with its words. -/
theorem ofMessage?_of_client? {client : Client} (h : message.client? = some client) :
    message.isGreeting = true
      ∧ ∃ version, Request.ofMessage? message = some (.hello version client.compiler client.build) := by
  unfold client? at h
  split at h
  · next tag version compiler build more =>
      split at h
      · next htag =>
          injection h with hclient
          subst htag hclient
          refine ⟨?_, version, ?_⟩
          · simp [isGreeting, tag?]
          · rw [Request.ofMessage?, Request.ofTag?_hello]
            rfl
      · cases h
  · cases h

/-- Every handshake announces a client. -/
theorem isGreeting_of_client?_eq_none (h : message.client? = none) : message.isGreeting = false := by
  rcases message with _ | ⟨tag, _ | ⟨version, _ | ⟨compiler, _ | ⟨build, more⟩⟩⟩⟩
  · rfl
  · exact Bool.and_false _
  · exact Bool.and_false _
  · exact Bool.and_false _
  · by_cases htag : tag = Bytes.ofString "HELLO"
    · rw [client?, if_pos htag] at h
      cases h
    · simp [isGreeting, tag?, htag]

end Message

/-! ## Answers -/

namespace Session

variable {σ : Type} {mapper : Mapper σ} {s : Session σ} {message : Message}

/-- What a session is after it was ready to serve, or was not. -/
theorem whenReady_cases (serve : Session σ → Except Failure Response × Session σ) :
    (s.whenReady serve).2 = s ∨ s.phase = .ready ∧ (s.whenReady serve).2 = (serve s).2 := by
  unfold whenReady
  split
  · next hready => exact Or.inr ⟨hready, rfl⟩
  · exact Or.inl rfl

/-- What does not change a session does not either when the session is ready. -/
theorem whenReady_of_same {serve : Session σ → Except Failure Response × Session σ}
    (h : (serve s).2 = s) : (s.whenReady serve).2 = s := by
  rcases whenReady_cases serve with hsame | ⟨-, hserved⟩
  · exact hsame
  · exact hserved.trans h

/-- A handshake is taken over. -/
theorem answer_of_client? {client : Client} (h : message.client? = some client) :
    answer mapper message s = (.ok .acknowledgment, s.greeted client) := by
  obtain ⟨-, version, hrequest⟩ := Message.ofMessage?_of_client? h
  rw [answer, hrequest]
  rfl

/-- **What a message that is no handshake does to a session**: nothing, unless a ready session provides
    the repository or imports a module, and then only to the workspace. -/
theorem answer_cases (mapper : Mapper σ) (s : Session σ) (h : message.client? = none) :
    (answer mapper message s).2 = s
      ∨ s.phase = .ready ∧ Request.ofMessage? message = some .repository
        ∧ (answer mapper message s).2
          = { s with workspace := (mapper.provideRepository s.workspace).2 }
      ∨ ∃ name, s.phase = .ready ∧ Request.ofMessage? message = some (.moduleImport name)
        ∧ (answer mapper message s).2
          = { s with workspace := (mapper.importModule s.client name s.workspace).2 } := by
  by_cases hne : message = []
  · subst hne
    exact Or.inl rfl
  · obtain ⟨request, hrequest, hnot⟩ := Request.ofMessage?_of_not_isGreeting hne
      (Message.isGreeting_of_client?_eq_none h)
    rw [answer, hrequest]
    cases request with
    | hello version compiler build => exact absurd rfl (hnot version compiler build)
    | repository =>
        rcases whenReady_cases (serveRepository mapper) with hsame | ⟨hready, hserved⟩
        · exact Or.inl hsame
        · exact Or.inr (Or.inl ⟨hready, rfl, hserved⟩)
    | moduleExport name => exact Or.inl (whenReady_of_same rfl)
    | moduleImport name =>
        rcases whenReady_cases (serveImport mapper name) with hsame | ⟨hready, hserved⟩
        · exact Or.inl hsame
        · exact Or.inr (Or.inr ⟨name, hready, rfl, hserved⟩)
    | malformed kind =>
        cases kind with
        | hello => exact Or.inl rfl
        | repository | moduleExport | moduleImport => exact Or.inl (whenReady_of_same rfl)
    | unknown tag => exact Or.inl (whenReady_of_same rfl)

/-- **Only a handshake changes the client**, and a handshake always does. -/
theorem client_answer (mapper : Mapper σ) (message : Message) (s : Session σ) :
    (answer mapper message s).2.client = message.client?.getD s.client := by
  cases hclient : message.client? with
  | some client =>
      rw [answer_of_client? hclient]
      rfl
  | none =>
      rcases answer_cases mapper s hclient with hsame | ⟨-, -, hprovided⟩ | ⟨name, -, -, himported⟩
      · rw [hsame]
        rfl
      · rw [hprovided]
        rfl
      · rw [himported]
        rfl

/-- A handshake makes a session ready. -/
theorem phase_answer_of_isGreeting (h : message.isGreeting = true) (s : Session σ) :
    (answer mapper message s).2.phase = .ready := by
  obtain ⟨version, compiler, build, hrequest⟩ := Request.ofMessage?_of_isGreeting h
  rw [answer, hrequest]
  rfl

/-- Only a ready session gives a path. -/
theorem eq_pathName_of_whenReady {path : Path}
    {serve : Session σ → Except Failure Response × Session σ}
    (h : (s.whenReady serve).1 = .ok (.pathName path)) :
    s.phase = .ready ∧ (serve s).1 = .ok (.pathName path) := by
  unfold whenReady at h
  split at h
  · next hready => exact ⟨hready, h⟩
  · cases h

/-- A path that is answered is the outcome. -/
theorem eq_ok_of_replyOf {outcome : Except Failure Path} {path : Path}
    (h : replyOf outcome = .ok (.pathName path)) : outcome = .ok path := by
  cases outcome with
  | ok found =>
      injection h with hresponse
      injection hresponse with hpath
      rw [hpath]
  | error failure =>
      cases hends : failure.endsSession with
      | false =>
          rw [replyOf, hends] at h
          cases h
      | true =>
          rw [replyOf, hends] at h
          cases h

end Session

namespace Mapper

variable {σ : Type} {mapper : Mapper σ} {client : Client} {name : Word}

/-- The path of an artifact is that of its name, the prefix and the client. -/
theorem eq_path_of_pathOf {path : Path} (h : mapper.pathOf client name = .ok path) :
    path = Artifact.path name mapper.settings.crossPrefix client := by
  unfold pathOf at h
  split at h
  · cases h
  · injection h with hpath
    exact hpath.symm

/-- A name that a file can have gets a path. -/
theorem pathOf_of_not_mem (h : Byte.nul ∉ name) :
    mapper.pathOf client name = .ok (Artifact.path name mapper.settings.crossPrefix client) := by
  have hname : name.contains Byte.nul = false := by simpa using h
  simp only [pathOf, Artifact.checkName, hname, Bool.false_eq_true, if_false]

/-- An import that succeeds answers with the path that an export names. -/
theorem pathOf_of_importModule {w : Workspace σ} {path : Path}
    (h : (mapper.importModule client name w).1 = .ok path) : mapper.pathOf client name = .ok path := by
  unfold importModule at h
  split at h
  · cases h
  · next artifact hpath =>
      split at h
      · cases h
      · split at h
        · cases h
        · exact hpath.trans h

end Mapper

namespace Session

variable {σ : Type} {mapper : Mapper σ} {s : Session σ} {message : Message} {name : Word}

/-- **A path that is answered is that of the artifact for the client that is served.** -/
theorem path_of_answer (hasks : message.AsksFor name) {path : Path}
    (h : (answer mapper message s).1 = .ok (.pathName path)) :
    s.phase = .ready ∧ path = Artifact.path name mapper.settings.crossPrefix s.client := by
  unfold answer at h
  rcases hasks with hexport | himport
  · rw [hexport] at h
    obtain ⟨hready, hserved⟩ := eq_pathName_of_whenReady h
    exact ⟨hready, Mapper.eq_path_of_pathOf (eq_ok_of_replyOf hserved)⟩
  · rw [himport] at h
    obtain ⟨hready, hserved⟩ := eq_pathName_of_whenReady h
    exact ⟨hready, Mapper.eq_path_of_pathOf (Mapper.pathOf_of_importModule (eq_ok_of_replyOf hserved))⟩

/-- **An export is answered with a path**, once the session is ready, whatever the files are. -/
theorem answer_export_of_ready (hready : s.phase = .ready)
    (hasks : Request.ofMessage? message = some (.moduleExport name)) (hname : Byte.nul ∉ name) :
    (answer mapper message s).1
      = .ok (.pathName (Artifact.path name mapper.settings.crossPrefix s.client)) := by
  rw [answer, hasks]
  show (s.whenReady (serveExport mapper name)).1 = _
  rw [whenReady, if_pos hready, serveExport, Mapper.pathOf_of_not_mem hname]
  rfl

end Session

/-! ## Histories -/

deriving instance DecidableEq for Event

namespace Event

variable {σ : Type} {mapper : Mapper σ} {s t : Session σ} {events : List (Event σ)}

/-- The answer that an event gives, if it gives one. -/
def response? (mapper : Mapper σ) : Event σ → Option Response
  | handled message before _ =>
      match (Session.answer mapper message before).1 with
      | .ok response => some response
      | .error _ => none
  | returned .. => none

/-- The answer that an event gives is the session's. -/
theorem answer_of_response? {message : Message} {before after : Session σ} {response : Response}
    (h : response? mapper (.handled message before after) = some response) :
    (Session.answer mapper message before).1 = .ok response := by
  cases hanswer : (Session.answer mapper message before).1 with
  | ok given =>
      rw [response?, hanswer] at h
      injection h with hgiven
      rw [hgiven]
  | error failure =>
      rw [response?, hanswer] at h
      cases h

/-- The client that an event announces, if it does. -/
def client? : Event σ → Option Client
  | handled message _ _ => message.client?
  | returned .. => none

/-- The client that was announced last. -/
def lastClient? (events : List (Event σ)) : Option Client := (events.filterMap client?).getLast?

theorem lastClient?_cons (event : Event σ) (events : List (Event σ)) :
    lastClient? (event :: events) = (lastClient? events).or event.client? := by
  unfold lastClient?
  cases hclient : event.client? with
  | none => rw [List.filterMap_cons_none hclient, Option.or_none]
  | some client =>
      rw [List.filterMap_cons_some hclient, List.getLast?_cons]
      cases (events.filterMap Event.client?).getLast? with
      | none => rfl
      | some last => rfl

/-- **A session serves the client that was announced last.**  Induction on the events. -/
theorem client_of_follow (h : Follow mapper s events t) :
    t.client = (lastClient? events).getD s.client := by
  induction h with
  | nil s => rfl
  | @handled message s t events _ ih =>
      rw [ih, lastClient?_cons, Session.client_answer]
      show _ = ((lastClient? events).or message.client?).getD s.client
      cases lastClient? events with
      | none => rfl
      | some client => rfl
  | @returned phase s t events _ _ ih =>
      rw [ih, lastClient?_cons]
      show _ = ((lastClient? events).or none).getD s.client
      rw [Option.or_none]

/-- Whatever is handled, a ready session stays ready until a run comes to its end. -/
theorem ready_of_follow (h : Follow mapper s events t) (hready : s.phase = .ready)
    (hnone : ∀ event ∈ events, event.isReturn = false) : t.phase = .ready := by
  induction h with
  | nil s => exact hready
  | @handled message s t events _ ih =>
      refine ih ?_ (fun event hevent => hnone event (List.mem_cons_of_mem _ hevent))
      by_cases hgreeting : message.isGreeting = true
      · exact Session.phase_answer_of_isGreeting hgreeting s
      · rw [Session.phase_answer_of_not_isGreeting (by simpa using hgreeting)]
        exact hready
  | returned _ _ _ => cases hnone _ List.mem_cons_self

/-- A handshake keeps a session ready until a run comes to its end. -/
theorem ready_of_greeted (h : Follow mapper s events t) (hgreeted : Greeted events) :
    t.phase = .ready := by
  obtain ⟨earlier, message, before, after, later, rfl, hgreeting, hlater⟩ := hgreeted
  obtain ⟨between, -, hrest⟩ := follow_append.mp h
  cases hrest with
  | handled hrest => exact ready_of_follow hrest (Session.phase_answer_of_isGreeting hgreeting _) hlater

/-- A handshake announced a client. -/
theorem exists_lastClient?_of_greeted (hgreeted : Greeted events) :
    ∃ client, lastClient? events = some client := by
  obtain ⟨earlier, message, before, after, later, rfl, hgreeting, -⟩ := hgreeted
  cases hclient : message.client? with
  | none =>
      rw [Message.isGreeting_of_client?_eq_none hclient] at hgreeting
      cases hgreeting
  | some client =>
      refine Option.isSome_iff_exists.mp ?_
      rw [lastClient?, List.getLast?_isSome]
      refine List.ne_nil_of_mem (a := client) (List.mem_filterMap.mpr
        ⟨.handled message before after, ?_, hclient⟩)
      exact List.mem_append_right earlier List.mem_cons_self

end Event

namespace Session

variable {σ : Type}

/-- The replies to a block are the answers of its messages, in order. -/
theorem answerAll_eq_map_response? {mapper : Mapper σ} {block replies : Block} {s : Session σ}
    (h : (answerAll mapper block s).1 = .ok replies) :
    replies = ((handlings mapper block s).filterMap (Event.response? mapper)).map
      Response.toMessage := by
  induction block generalizing s replies with
  | nil =>
      injection h with hnil
      rw [← hnil]
      rfl
  | cons message others ih =>
      cases hanswer : (answer mapper message s).1 with
      | error failure =>
          rw [answerAll_of_error hanswer] at h
          cases h
      | ok response =>
          rw [answerAll_of_ok hanswer] at h
          have hresponse : Event.response? mapper (.handled message s (answer mapper message s).2)
              = some response := by
            rw [Event.response?, hanswer]
          rw [handlings, hanswer, List.filterMap_cons_some hresponse]
          cases hothers : (answerAll mapper others (answer mapper message s).2).1 with
          | error failure =>
              rw [hothers] at h
              cases h
          | ok rest =>
              rw [hothers] at h
              injection h with hreplies
              rw [← hreplies, List.map_cons, ih hothers]

end Session

namespace Connection

variable {σ ω : Type} [Sink ω] (mapper : Mapper σ) (c : Connection σ ω)

/-- **Exports and imports follow the last handshake.**  Whatever is called on a connection that starts by
    waiting for a handshake, and whatever the client sends, the files hold and the compiler does: the path
    that answers an export or an import is that of the artifact for the client that was announced last;
    and once a handshake was handled, and until a run comes to its end, every export of a name without a
    NUL byte is answered with that path.  The replies to a block are the answers of its messages. -/
theorem path_replied (hstart : c.session.phase = .awaitingHandshake) (calls : List Call) :
    (∀ earlier message before after later,
        history mapper calls c = earlier ++ .handled message before after :: later →
        ∀ name,
          (∀ path, message.AsksFor name →
            Event.response? mapper (.handled message before after) = some (.pathName path) →
              ∃ client, Event.lastClient? earlier = some client
                ∧ path = Artifact.path name mapper.settings.crossPrefix client)
          ∧ (Request.ofMessage? message = some (.moduleExport name) → Byte.nul ∉ name →
              Event.Greeted earlier →
              ∃ client, Event.lastClient? earlier = some client
                ∧ Event.response? mapper (.handled message before after)
                  = some (.pathName (Artifact.path name mapper.settings.crossPrefix client))))
      ∧ ∀ block session replies, (Session.answerAll mapper block session).1 = .ok replies →
        replies = ((Session.handlings mapper block session).filterMap
          (Event.response? mapper)).map Response.toMessage := by
  refine ⟨?_, fun block session replies => Session.answerAll_eq_map_response?⟩
  intro earlier message before after later hhistory name
  have hfollow := follow_history mapper calls c
  rw [hhistory] at hfollow
  obtain ⟨between, hearlier, hlater⟩ := Event.follow_append.mp hfollow
  have hclient : ∀ client, Event.lastClient? earlier = some client → between.client = client := by
    intro client hlast
    rw [Event.client_of_follow hearlier, hlast]
    rfl
  cases hlater with
  | handled _ =>
      constructor
      · intro path hasks hresponse
        obtain ⟨hready, hpath⟩ := Session.path_of_answer hasks (Event.answer_of_response? hresponse)
        rcases Event.greeted_of_ready hearlier hready with hgreeted | ⟨hphase, -⟩
        · obtain ⟨client, hlast⟩ := Event.exists_lastClient?_of_greeted hgreeted
          exact ⟨client, hlast, by rw [hpath, hclient client hlast]⟩
        · rw [hstart] at hphase
          cases hphase
      · intro hasks hname hgreeted
        obtain ⟨client, hlast⟩ := Event.exists_lastClient?_of_greeted hgreeted
        refine ⟨client, hlast, ?_⟩
        have hready : before.phase = .ready := Event.ready_of_greeted hearlier hgreeted
        have hanswer : (Session.answer mapper message before).1 = _ :=
          Session.answer_export_of_ready hready hasks hname
        rw [Event.response?, hanswer, hclient client hlast]

/-- The client that the changing client says it is in the end. -/
def clang : Client := { compiler := Bytes.ofString "clang" }

/-- A client that says it is another one in the middle of a block, and says too little in between. -/
def changingClient : Connection Unit where
  reader := { stream := {
    rest := Bytes.ofString
      "HELLO 1 GCC b ;\nHELLO 1 ;\nHELLO 2 clang '' ;\nMODULE-EXPORT a ;\nMODULE-IMPORT a\n" } }
  session := { workspace := Workspace.blank }

/-- What happens to the changing client's session up to its second handshake. -/
def changingHistory : List (Event Unit) :=
  let start := changingClient.session
  let first := start.greeted { compiler := Bytes.ofString "GCC", build := Bytes.ofString "b" }
  [.handled [Bytes.ofString "HELLO", Bytes.ofString "1", Bytes.ofString "GCC", Bytes.ofString "b"]
      start first,
   .handled [Bytes.ofString "HELLO", Bytes.ofString "1"] first first,
   .handled [Bytes.ofString "HELLO", Bytes.ofString "2", Bytes.ofString "clang", []]
      first (start.greeted clang)]

/-- The changing client's request about a module is handled. -/
def changedHandles (kind : RequestKind) : Event Unit :=
  let message := [Bytes.ofString kind.tag, Bytes.ofString "a"]
  let before := changingClient.session.greeted clang
  .handled message before (Session.answer Mapper.idle message before).2

/-- The changing client's export and its import are answered with the path of one artifact: that for the
    client it says it is in the end. -/
theorem path_replied_changingClient :
    changingClient.session.phase = .awaitingHandshake
      ∧ Event.Greeted changingHistory
      ∧ (∃ later, history Mapper.idle [.run] changingClient
          = changingHistory ++ changedHandles .moduleExport :: changedHandles .moduleImport :: later)
      ∧ Event.lastClient? changingHistory = some clang
      ∧ Event.response? Mapper.idle (changedHandles .moduleExport)
        = some (.pathName (Artifact.path (Bytes.ofString "a") "" clang))
      ∧ ∃ path, Event.response? Mapper.idle (changedHandles .moduleImport) = some (.pathName path)
        ∧ path = Artifact.path (Bytes.ofString "a") "" clang := by
  have hhistory : history Mapper.idle [.run] changingClient
      = changingHistory ++ changedHandles .moduleExport :: changedHandles .moduleImport
        :: (history Mapper.idle [.run] changingClient).drop 5 := by
    decide +kernel
  have hgreeted : Event.Greeted changingHistory :=
    ⟨changingHistory.take 2, _, _, _, [], rfl, by decide +kernel, List.forall_mem_nil _⟩
  have hlast : Event.lastClient? changingHistory = some clang := by decide +kernel
  have hlast_export :
      Event.lastClient? (changingHistory ++ [changedHandles .moduleExport]) = some clang := by
    decide +kernel
  have himport : Event.response? Mapper.idle (changedHandles .moduleImport)
      = some (.pathName (Bytes.ofString
        "ca/97/ca978112ca1bbdcafac231b39a23dc4da786eff8147c4e72b9807785afee48bb-clang.cmi")) := by
    decide +kernel
  have hreplied := (path_replied Mapper.idle changingClient rfl [.run]).1
  refine ⟨rfl, hgreeted, ⟨_, hhistory⟩, hlast, ?_, _, himport, ?_⟩
  · obtain ⟨client, hclient, hresponse⟩ :=
      (hreplied _ _ _ _ _ hhistory (Bytes.ofString "a")).2 (by decide +kernel) (by decide +kernel)
        hgreeted
    have hclang : client = clang := Option.some.inj (hclient.symm.trans hlast)
    rw [hclang] at hresponse
    exact hresponse
  · obtain ⟨client, hclient, hpath⟩ :=
      (hreplied (changingHistory ++ [changedHandles .moduleExport]) _ _ _ _
        (hhistory.trans (List.append_cons _ _ _)) (Bytes.ofString "a")).1 _
        (Or.inr (by decide +kernel)) himport
    have hclang : client = clang := Option.some.inj (hclient.symm.trans hlast_export)
    rw [hclang] at hpath
    exact hpath

end Connection

end ModuleMapper
