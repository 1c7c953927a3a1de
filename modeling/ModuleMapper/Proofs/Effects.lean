import ModuleMapper.Proofs.Clients
import ModuleMapper.Proofs.Directories

/-!
# Effects — what an answer does to the workspace

  Two requests do something: one provides the repository, the other imports a module
  (`workspace_answer_cases`).  An import makes directories above the artifact and may compile, and a
  compiler that is *inert* leaves the files as they are (`grows_importModule`).  An import that succeeds
  has compiled, unless it has found something in the artifact's place (`journal_importModule`).
-/

namespace ModuleMapper

/-- A compiler that does not change the files. -/
def Compiler.Inert {σ : Type} (compiler : Compiler σ) : Prop :=
  ∀ name invocation state files, (compiler.compile name invocation state files).2.2 = files

theorem Mapper.inert_idle : Mapper.idle.compiler.Inert := fun _ _ _ _ => rfl

/-- An artifact is missing unless something lies in its place. -/
theorem Freshness.eq_missing_of {files : FileSystem} {artifact source : Path} {freshness : Freshness}
    (h : of files artifact source = .ok freshness) (hnone : ∀ found, files.stat artifact ≠ .ok found) :
    freshness = missing := by
  unfold of at h
  split at h
  · injection h with h
    exact h.symm
  · cases h
  · next found hfound => exact absurd hfound (hnone found)

namespace Workspace

variable {σ : Type} {compiler : Compiler σ} {name : String} {invocation : Invocation} {w : Workspace σ}

theorem files_compile (hinert : compiler.Inert) :
    (w.compile compiler name invocation).2.files = w.files := by
  have hfiles := hinert name invocation w.compilerState w.files
  unfold compile
  split
  · next hcompile =>
      rw [hcompile] at hfiles
      exact hfiles
  · next hcompile =>
      rw [hcompile] at hfiles
      exact hfiles

/-- A compilation that succeeds is noted as one. -/
theorem journal_compile (h : (w.compile compiler name invocation).1 = .ok ()) :
    (w.compile compiler name invocation).2.journal = w.journal ++ [⟨name, invocation, none⟩] := by
  unfold compile at h ⊢
  split
  · rfl
  · next hcompile =>
      rw [hcompile] at h
      cases h

end Workspace

namespace Mapper

variable {σ : Type} {mapper : Mapper σ} {client : Client} {name : Word} {w : Workspace σ}

section Refresh

variable {file : Path}

theorem refresh_of_error {failure : Failure}
    (h : Freshness.of w.files file (mapper.unitOf name).source = .error failure) :
    mapper.refresh name file w = (.error failure, w) := by
  rw [refresh, h]

theorem refresh_of_fresh (h : Freshness.of w.files file (mapper.unitOf name).source = .ok .fresh) :
    mapper.refresh name file w = (.ok (), w) := by
  rw [refresh, h]
  rfl

theorem refresh_of_outdated {freshness : Freshness}
    (h : Freshness.of w.files file (mapper.unitOf name).source = .ok freshness)
    (hne : freshness ≠ .fresh) :
    mapper.refresh name file w
      = w.compile mapper.compiler (Text.lossy name) (mapper.invocationOf name) := by
  rw [refresh, h]
  cases freshness with
  | missing | stale => rfl
  | fresh => exact absurd rfl hne

theorem files_refresh (hinert : mapper.compiler.Inert) :
    (mapper.refresh name file w).2.files = w.files := by
  cases hjudged : Freshness.of w.files file (mapper.unitOf name).source with
  | error failure => rw [refresh_of_error hjudged]
  | ok freshness =>
      by_cases hfresh : freshness = .fresh
      · rw [hfresh] at hjudged
        rw [refresh_of_fresh hjudged]
      · rw [refresh_of_outdated hjudged hfresh]
        exact Workspace.files_compile hinert

/-- What is missing is compiled. -/
theorem journal_refresh (h : (mapper.refresh name file w).1 = .ok ())
    (hnone : ∀ found, w.files.stat file ≠ .ok found) :
    (mapper.refresh name file w).2.journal
      = w.journal ++ [⟨Text.lossy name, mapper.invocationOf name, none⟩] := by
  cases hjudged : Freshness.of w.files file (mapper.unitOf name).source with
  | error failure =>
      rw [refresh_of_error hjudged] at h
      cases h
  | ok freshness =>
      have hmissing : freshness ≠ .fresh := by
        rw [Freshness.eq_missing_of hjudged hnone]
        exact Freshness.noConfusion
      rw [refresh_of_outdated hjudged hmissing] at h ⊢
      exact Workspace.journal_compile h

end Refresh

/-- The file of an artifact that is prepared is the one that is looked for. -/
theorem file_of_prepare {repository : Repository} {artifact file : Path} {files : FileSystem}
    (h : (repository.prepare artifact files).1 = .ok file) : file = repository.fileOf artifact := by
  simp only [Repository.prepare] at h
  split at h
  · injection h with h
    exact h.symm
  · split at h
    · injection h with h
      exact h.symm
    · cases h

theorem importModule_of_pathOf {failure : Failure} (h : mapper.pathOf client name = .error failure) :
    mapper.importModule client name w = (.error failure, w) := by
  rw [importModule, h]

theorem importModule_of_unprepared {artifact : Path} (hpath : mapper.pathOf client name = .ok artifact)
    {failure : Failure} (h : (mapper.repository.prepare artifact w.files).1 = .error failure) :
    mapper.importModule client name w
      = (.error failure, { w with files := (mapper.repository.prepare artifact w.files).2 }) := by
  have hprepare : mapper.repository.prepare artifact w.files = (.error failure, _) := Prod.ext h rfl
  rw [importModule, hpath]
  simp only
  rw [hprepare]

/-- Once its artifact is prepared, an import refreshes it. -/
theorem importModule_of_prepared {artifact file : Path}
    (hpath : mapper.pathOf client name = .ok artifact)
    (h : (mapper.repository.prepare artifact w.files).1 = .ok file) :
    mapper.importModule client name w
      = (((mapper.refresh name (mapper.repository.fileOf artifact)
            { w with files := (mapper.repository.prepare artifact w.files).2 }).1.map
          fun _ => artifact),
        (mapper.refresh name (mapper.repository.fileOf artifact)
          { w with files := (mapper.repository.prepare artifact w.files).2 }).2) := by
  have hprepare : mapper.repository.prepare artifact w.files = (.ok file, _) := Prod.ext h rfl
  rw [importModule, hpath, ← file_of_prepare h]
  simp only
  rw [hprepare]
  simp only
  split
  · next hrefresh =>
      rw [hrefresh]
      rfl
  · next hrefresh =>
      rw [hrefresh]
      rfl

/-- **With an inert compiler, an import makes directories above its artifact**, and does nothing else to
    the files. -/
theorem grows_importModule (hinert : mapper.compiler.Inert) (client : Client) (name : Word)
    (w : Workspace σ) :
    FileSystem.Grows w.files (mapper.importModule client name w).2.files fun location =>
      ∃ directory, (mapper.repository.fileOf
          (Artifact.path name mapper.settings.crossPrefix client)).parent? = some directory
        ∧ w.files.OnTheWay directory location := by
  cases hpath : mapper.pathOf client name with
  | error failure =>
      rw [importModule_of_pathOf hpath]
      exact .refl w.files
  | ok artifact =>
      have hgrows := mapper.repository.grows_prepare artifact w.files
      rw [← eq_path_of_pathOf hpath]
      cases hprepare : (mapper.repository.prepare artifact w.files).1 with
      | error failure =>
          rw [importModule_of_unprepared hpath hprepare]
          exact hgrows
      | ok file =>
          rw [importModule_of_prepared hpath hprepare, files_refresh hinert]
          exact hgrows

/-- **An import that succeeds has compiled**, unless something lies in the artifact's place once the
    directories above it are made. -/
theorem journal_importModule {path : Path} (h : (mapper.importModule client name w).1 = .ok path)
    (hnone : ∀ found, (mapper.repository.prepare path w.files).2.stat (mapper.repository.fileOf path)
      ≠ .ok found) :
    (mapper.importModule client name w).2.journal
      = w.journal ++ [⟨Text.lossy name, mapper.invocationOf name, none⟩] := by
  have hpath := pathOf_of_importModule h
  cases hprepare : (mapper.repository.prepare path w.files).1 with
  | error failure =>
      rw [importModule_of_unprepared hpath hprepare] at h
      cases h
  | ok file =>
      rw [importModule_of_prepared hpath hprepare] at h ⊢
      generalize hready : { w with files := (mapper.repository.prepare path w.files).2 } = ready at h ⊢
      have hfiles : ready.files = (mapper.repository.prepare path w.files).2 := hready ▸ rfl
      have hjournal : ready.journal = w.journal := hready ▸ rfl
      rw [← hfiles] at hnone
      rw [← hjournal]
      cases hrefresh : (mapper.refresh name (mapper.repository.fileOf path) ready).1 with
      | error failure =>
          rw [hrefresh] at h
          cases h
      | ok done => exact journal_refresh hrefresh hnone

end Mapper

namespace Session

variable {σ : Type} {mapper : Mapper σ} {s : Session σ} {message : Message} {name : Word}

/-- **What an answer does to the workspace**: nothing, unless a ready session provides the repository or
    imports a module. -/
theorem workspace_answer_cases (mapper : Mapper σ) (message : Message) (s : Session σ) :
    (answer mapper message s).2.workspace = s.workspace
      ∨ s.phase = .ready ∧ Request.ofMessage? message = some .repository
        ∧ (answer mapper message s).2.workspace = (mapper.provideRepository s.workspace).2
      ∨ ∃ name, s.phase = .ready ∧ Request.ofMessage? message = some (.moduleImport name)
        ∧ (answer mapper message s).2.workspace = (mapper.importModule s.client name s.workspace).2 := by
  cases hclient : message.client? with
  | some client =>
      rw [answer_of_client? hclient]
      exact Or.inl rfl
  | none =>
      rcases answer_cases mapper s hclient with hsame | ⟨hready, hrequest, hprovided⟩
        | ⟨name, hready, hrequest, himported⟩
      · exact Or.inl (congrArg Session.workspace hsame)
      · exact Or.inr (Or.inl ⟨hready, hrequest, congrArg Session.workspace hprovided⟩)
      · exact Or.inr (Or.inr ⟨name, hready, hrequest, congrArg Session.workspace himported⟩)

/-- An import that is answered with a path has succeeded, in a ready session. -/
theorem importModule_of_answer (hasks : Request.ofMessage? message = some (.moduleImport name))
    {path : Path} (h : (answer mapper message s).1 = .ok (.pathName path)) :
    s.phase = .ready
      ∧ (mapper.importModule s.client name s.workspace).1 = .ok path
      ∧ (answer mapper message s).2.workspace
        = (mapper.importModule s.client name s.workspace).2 := by
  rw [answer, hasks] at h ⊢
  obtain ⟨hready, hserved⟩ := eq_pathName_of_whenReady h
  refine ⟨hready, eq_ok_of_replyOf hserved, ?_⟩
  show (s.whenReady _).2.workspace = _
  rw [whenReady, if_pos hready]
  rfl

end Session

end ModuleMapper
