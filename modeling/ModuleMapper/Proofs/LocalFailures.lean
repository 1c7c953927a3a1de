import ModuleMapper.Proofs.Answering

/-!
# Local failures — what cannot end a session

  Only trouble on the wire ends a session.  The repository, the names of modules and the examination of
  files never make trouble of that kind, and a compiler is *local* if it does not either.  With a local
  compiler every message that has a word is answered (`answer_of_local`); what the answer is says
  `Message.Answered`: the acknowledgment for a handshake, a path or an error for anything else.

  Whatever the compiler is, a message gets no answer only if it has no words, or if the compiler fails in a
  way that ends the session (`failure_of_answer`).
-/

namespace ModuleMapper

/-! ## Failures below the session -/

/-- A compiler whose failures end no session. -/
def Compiler.Local {σ : Type} (compiler : Compiler σ) : Prop :=
  ∀ name invocation state files failure,
    (compiler.compile name invocation state files).1 = .error failure → failure.endsSession = false

/-- A mapper whose compiler succeeds without doing anything. -/
def Mapper.idle : Mapper Unit where
  settings := {}
  compiler := { compile := fun _ _ state files => (.ok (), state, files) }

/-- A workspace for it, in a root directory without files. -/
def Workspace.blank : Workspace Unit where
  files := { entries := [([], .directory ⟨0, 0⟩)], workingDir := [], now := ⟨0, 0⟩ }
  compilerState := ()

theorem Mapper.local_idle : Mapper.idle.compiler.Local := by
  intro name invocation state files failure h
  cases h

namespace Repository

theorem endsSession_provide {files : FileSystem} {directory : Path} {failure : Failure}
    (h : (provide files directory).1 = .error failure) : failure.endsSession = false := by
  unfold provide at h
  split at h
  · cases h
  · injection h with heq
    rw [← heq]
    rfl

theorem endsSession_absoluteRoot {repository : Repository} {files : FileSystem} {failure : Failure}
    (h : repository.absoluteRoot files = .error failure) : failure.endsSession = false := by
  unfold absoluteRoot at h
  split at h
  · cases h
  · split at h
    · cases h
    · injection h with heq
      rw [← heq]
      rfl

theorem endsSession_provideRoot {repository : Repository} {files : FileSystem} {failure : Failure}
    (h : (repository.provideRoot files).1 = .error failure) : failure.endsSession = false := by
  unfold provideRoot at h
  split at h
  · next hroot =>
      injection h with heq
      exact endsSession_absoluteRoot (heq ▸ hroot)
  · split at h
    · cases h
    · next hprovide =>
        injection h with heq
        exact endsSession_provide (congrArg Prod.fst (heq ▸ hprovide))

theorem endsSession_prepare {repository : Repository} {artifact : Path} {files : FileSystem}
    {failure : Failure} (h : (repository.prepare artifact files).1 = .error failure) :
    failure.endsSession = false := by
  simp only [prepare] at h
  split at h
  · cases h
  · split at h
    · cases h
    · next hprovide =>
        injection h with heq
        exact endsSession_provide (congrArg Prod.fst (heq ▸ hprovide))

end Repository

theorem Freshness.endsSession_of {files : FileSystem} {artifact source : Path} {failure : Failure}
    (h : Freshness.of files artifact source = .error failure) : failure.endsSession = false := by
  unfold Freshness.of at h
  split at h
  · cases h
  · injection h with heq
    rw [← heq]
    rfl
  · split at h
    · injection h with heq
      rw [← heq]
      rfl
    · cases h

namespace Mapper

variable {σ : Type} {mapper : Mapper σ}

theorem endsSession_provideRepository {w : Workspace σ} {failure : Failure}
    (h : (mapper.provideRepository w).1 = .error failure) : failure.endsSession = false :=
  Repository.endsSession_provideRoot h

theorem endsSession_pathOf {client : Client} {name : Word} {failure : Failure}
    (h : mapper.pathOf client name = .error failure) : failure.endsSession = false := by
  unfold pathOf Artifact.checkName at h
  split at h
  · next hcheck =>
      split at hcheck
      · injection hcheck with hname
        injection h with heq
        rw [← heq, ← hname]
        rfl
      · cases hcheck
  · cases h

/-- The compiler may fail with this when it compiles a module. -/
def FailsToCompile (mapper : Mapper σ) (name : Word) (failure : Failure) : Prop :=
  ∃ state files,
    (mapper.compiler.compile (Text.lossy name) (mapper.invocationOf name) state files).1
      = .error failure

/-- What keeps an artifact from being built ends no session, or it comes from the compiler. -/
theorem failure_of_refresh {name : Word} {file : Path} {w : Workspace σ} {failure : Failure}
    (h : (mapper.refresh name file w).1 = .error failure) :
    failure.endsSession = false ∨ mapper.FailsToCompile name failure := by
  unfold refresh at h
  split at h
  · next hfresh =>
      injection h with heq
      exact Or.inl (Freshness.endsSession_of (heq ▸ hfresh))
  · split at h
    · unfold Workspace.compile at h
      split at h
      · cases h
      · next hcompile =>
          injection h with heq
          exact Or.inr ⟨_, _, congrArg Prod.fst (heq ▸ hcompile)⟩
    · cases h

/-- What keeps a module from being imported ends no session, or it comes from the compiler. -/
theorem failure_of_importModule {client : Client} {name : Word} {w : Workspace σ} {failure : Failure}
    (h : (mapper.importModule client name w).1 = .error failure) :
    failure.endsSession = false ∨ mapper.FailsToCompile name failure := by
  unfold importModule at h
  split at h
  · next hpath =>
      injection h with heq
      exact Or.inl (endsSession_pathOf (heq ▸ hpath))
  · split at h
    · next hprepare =>
        injection h with heq
        exact Or.inl (Repository.endsSession_prepare (congrArg Prod.fst (heq ▸ hprepare)))
    · split at h
      · next hrefresh =>
          injection h with heq
          exact failure_of_refresh (congrArg Prod.fst (heq ▸ hrefresh))
      · cases h

theorem endsSession_importModule {client : Client} {name : Word} {w : Workspace σ}
    {failure : Failure} (hcompiler : mapper.compiler.Local)
    (h : (mapper.importModule client name w).1 = .error failure) : failure.endsSession = false := by
  rcases failure_of_importModule h with hlocal | ⟨state, files, hcompile⟩
  · exact hlocal
  · exact hcompiler _ _ state files failure hcompile

end Mapper

/-! ## Answers -/

/-- A path, or the reason why there is none. -/
def Response.IsOutcome (response : Response) : Prop :=
  (∃ path, response = .pathName path) ∨ ∃ text, response = .error text

/-- What a message is answered with: the acknowledgment of a handshake if it is one, else a path or the
    reason why there is none. -/
def Message.Answered (request : Message) (response : Response) : Prop :=
  if request.isGreeting then response = .acknowledgment else response.IsOutcome

namespace Session

variable {σ : Type} {mapper : Mapper σ}

/-- An outcome whose failure is local makes a path or the reason why there is none. -/
theorem replyOf_of_local {outcome : Except Failure Path}
    (h : ∀ failure, outcome = .error failure → failure.endsSession = false) :
    ∃ response, replyOf outcome = .ok response ∧ response.IsOutcome := by
  cases outcome with
  | ok path => exact ⟨_, rfl, Or.inl ⟨path, rfl⟩⟩
  | error failure =>
      refine ⟨.error failure.message, ?_, Or.inr ⟨_, rfl⟩⟩
      rw [replyOf, h failure rfl]
      rfl

/-- A request that is turned away gets an error, any other what it is served. -/
theorem whenReady_of_local {s : Session σ}
    {serve : Session σ → Except Failure Response × Session σ}
    (h : ∃ response, (serve s).1 = .ok response ∧ response.IsOutcome) :
    ∃ response, (s.whenReady serve).1 = .ok response ∧ response.IsOutcome := by
  unfold whenReady
  split
  · exact h
  · exact ⟨_, rfl, Or.inr ⟨_, rfl⟩⟩

/-- With a local compiler every request but a handshake gets a path or the reason why there is none. -/
theorem serve_of_local (hcompiler : mapper.compiler.Local) {request : Request}
    (hrequest : ∀ version compiler build, request ≠ .hello version compiler build)
    (s : Session σ) :
    ∃ response, (serve mapper request s).1 = .ok response ∧ response.IsOutcome := by
  cases request with
  | hello version compiler build => exact absurd rfl (hrequest version compiler build)
  | repository =>
      exact whenReady_of_local (replyOf_of_local fun _ => Mapper.endsSession_provideRepository)
  | moduleExport name =>
      exact whenReady_of_local (replyOf_of_local fun _ => Mapper.endsSession_pathOf)
  | moduleImport name =>
      exact whenReady_of_local
        (replyOf_of_local fun _ => Mapper.endsSession_importModule hcompiler)
  | malformed kind =>
      cases kind with
      | hello => exact ⟨_, rfl, Or.inr ⟨_, rfl⟩⟩
      | repository | moduleExport | moduleImport =>
          exact whenReady_of_local ⟨_, rfl, Or.inr ⟨_, rfl⟩⟩
  | unknown tag => exact whenReady_of_local ⟨_, rfl, Or.inr ⟨_, rfl⟩⟩

/-- **With a local compiler every message with a word is answered**: a handshake is acknowledged, and
    nothing else is. -/
theorem answer_of_local (hcompiler : mapper.compiler.Local) {message : Message}
    (hne : message ≠ []) (s : Session σ) :
    ∃ response, (answer mapper message s).1 = .ok response ∧ message.Answered response := by
  unfold answer Message.Answered
  by_cases hgreeting : message.isGreeting = true
  · obtain ⟨version, compiler, build, hrequest⟩ := Request.ofMessage?_of_isGreeting hgreeting
    rw [hrequest, hgreeting]
    exact ⟨_, rfl, rfl⟩
  · have hother : message.isGreeting = false := by simpa using hgreeting
    obtain ⟨request, hrequest, hnot⟩ := Request.ofMessage?_of_not_isGreeting hne hother
    rw [hrequest, hother]
    exact serve_of_local hcompiler hnot s

/-! ## Messages that get no answer -/

/-- An outcome that makes no answer is a failure that ends the session. -/
theorem failure_of_replyOf {outcome : Except Failure Path} {failure : Failure}
    (h : replyOf outcome = .error failure) : outcome = .error failure ∧ failure.endsSession = true := by
  cases outcome with
  | ok path => cases h
  | error cause =>
      rw [replyOf] at h
      split at h
      · next hends =>
          injection h with heq
          subst heq
          exact ⟨rfl, hends⟩
      · cases h

theorem failure_of_whenReady {s : Session σ}
    {serve : Session σ → Except Failure Response × Session σ} {failure : Failure}
    (h : (s.whenReady serve).1 = .error failure) :
    s.phase = .ready ∧ (serve s).1 = .error failure := by
  unfold whenReady at h
  split at h
  · next hready => exact ⟨hready, h⟩
  · cases h

/-- **A message gets no answer** only if it has no words, or if it asks a ready session to import a module
    and the compiler fails in a way that ends the session. -/
theorem failure_of_answer {message : Message} {s : Session σ} {failure : Failure}
    (h : (answer mapper message s).1 = .error failure) :
    message = [] ∧ failure = .emptyMessage
      ∨ failure.endsSession = true ∧ s.phase = .ready
        ∧ ∃ name, Request.ofMessage? message = some (.moduleImport name)
          ∧ mapper.FailsToCompile name failure := by
  unfold answer at h
  cases hrequest : Request.ofMessage? message with
  | none =>
      rw [hrequest] at h
      injection h with heq
      refine Or.inl ⟨?_, heq.symm⟩
      cases message with
      | nil => rfl
      | cons tag arguments =>
          rw [Request.ofMessage?] at hrequest
          split at hrequest
          · cases hrequest
          · cases hrequest
  | some request =>
      rw [hrequest] at h
      cases request with
      | hello version compiler build => cases h
      | repository =>
          obtain ⟨hprovided, hends⟩ := failure_of_replyOf (failure_of_whenReady h).2
          rw [Mapper.endsSession_provideRepository hprovided] at hends
          cases hends
      | moduleExport name =>
          obtain ⟨hpath, hends⟩ := failure_of_replyOf (failure_of_whenReady h).2
          rw [Mapper.endsSession_pathOf hpath] at hends
          cases hends
      | moduleImport name =>
          obtain ⟨hready, hserved⟩ := failure_of_whenReady h
          obtain ⟨himported, hends⟩ := failure_of_replyOf hserved
          refine Or.inr ⟨hends, hready, name, rfl, ?_⟩
          rcases Mapper.failure_of_importModule himported with hlocal | hcompile
          · rw [hlocal] at hends
            cases hends
          · exact hcompile
      | malformed kind =>
          cases kind with
          | hello => cases h
          | repository | moduleExport | moduleImport => cases (failure_of_whenReady h).2
      | unknown tag => cases (failure_of_whenReady h).2

end Session

end ModuleMapper
