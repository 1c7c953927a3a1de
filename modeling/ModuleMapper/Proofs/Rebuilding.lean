import ModuleMapper.Proofs.Presence
import ModuleMapper.Proofs.Recording
import ModuleMapper.Proofs.Resolution

/-!
# Rebuilding — when an import compiles

  An import checks the name, creates the directories above the artifact, examines the artifact and then its
  source, and compiles if it has to.  The first of these steps that fails is the last one taken.  What
  can become of an import is one of six things (`Mapper.Imports`), and which one it is, the name and the
  files say (`imports_iff`).

  Hence when it compiles: the artifact is missing, or it did not change after its source, to the nanosecond
  (`Mapper.Builds`).  Then the compiler is called once, as a record of its calls shows, and the directory of
  the artifact is there when it is (`importModule_decided`).
-/

namespace ModuleMapper

namespace Mapper

variable {σ : Type} (mapper : Mapper σ) (client : Client) (name : Word) (w : Workspace σ)

/-! ## What an import works with -/

/-- Where the artifact of a name lies, for a client. -/
def fileFor : Path := mapper.repository.fileOf (Artifact.path name mapper.settings.crossPrefix client)

/-- The directory that it lies in; the empty path if that is the one where the process stands. -/
def directoryFor : Path := (mapper.fileFor client name).parent?.getD []

/-- The workspace with the directories above the artifact, as far as they can be made. -/
def ready : Workspace σ :=
  { w with files := (w.files.makeDirectories (mapper.directoryFor client name)).2 }

/-- The one call of the compiler that an import can make. -/
def callFor : Compiler.Call σ :=
  (mapper.ready client name w).call (Text.lossy name) (mapper.invocationOf name)

/-- What comes of it. -/
def build : Except Failure Unit × Workspace σ :=
  (mapper.ready client name w).compile mapper.compiler (Text.lossy name) (mapper.invocationOf name)

/-- The steps in front of the comparison succeed. -/
structure Prepares : Prop where
  named : Byte.nul ∉ name
  created : (w.files.makeDirectories (mapper.directoryFor client name)).1 = .ok ()

/-- The artifact is there and changed strictly after its source, which is there too. -/
def HasNewer (files : FileSystem) : Prop :=
  ∃ found origin, files.stat (mapper.fileFor client name) = .ok found
    ∧ files.stat (mapper.sourceFor name) = .ok origin ∧ found.IsNewerThan origin

/-- The artifact is found to be newer than its source. -/
def UpToDate : Prop := mapper.HasNewer client name (mapper.ready client name w).files

/-- The artifact is missing, or it did not change strictly after its source. -/
def OutOfDate : Prop :=
  (mapper.ready client name w).files.stat (mapper.fileFor client name) = .error .notFound
    ∨ ∃ found origin, (mapper.ready client name w).files.stat (mapper.fileFor client name) = .ok found
      ∧ (mapper.ready client name w).files.stat (mapper.sourceFor name) = .ok origin
      ∧ ¬ found.IsNewerThan origin

/-- When an import compiles. -/
def Builds : Prop := mapper.Prepares client name w ∧ mapper.OutOfDate client name w

/-- **How an import goes**: it stops at the first step that fails, has nothing to do if the artifact is up to
    date, and compiles otherwise. -/
inductive Imports : Except Failure Path → Workspace σ → Prop
  | misnamed : Byte.nul ∈ name → Imports (.error (.moduleName (Text.lossy name))) w
  | uncreated {cause : SystemError} : Byte.nul ∉ name →
      (w.files.makeDirectories (mapper.directoryFor client name)).1 = .error cause →
      Imports (.error (.repositoryCreate cause)) (mapper.ready client name w)
  | unexamined {cause : SystemError} : mapper.Prepares client name w →
      (mapper.ready client name w).files.stat (mapper.fileFor client name) = .error cause →
      cause ≠ .notFound →
      Imports (.error (.artifactStat (mapper.fileFor client name) cause)) (mapper.ready client name w)
  | sourceless {found : Entry} {cause : SystemError} : mapper.Prepares client name w →
      (mapper.ready client name w).files.stat (mapper.fileFor client name) = .ok found →
      (mapper.ready client name w).files.stat (mapper.sourceFor name) = .error cause →
      Imports (.error (.sourceStat (mapper.sourceFor name) cause)) (mapper.ready client name w)
  | current : mapper.Prepares client name w → mapper.UpToDate client name w →
      Imports (.ok (Artifact.path name mapper.settings.crossPrefix client)) (mapper.ready client name w)
  | built : mapper.Builds client name w →
      Imports ((mapper.build client name w).1.map fun _ =>
          Artifact.path name mapper.settings.crossPrefix client)
        (mapper.build client name w).2

variable {mapper client name w}

/-- An artifact is not the root itself. -/
theorem solid_fileFor_ne_nil : Path.solid (mapper.fileFor client name) ≠ [] := by
  have hrelative := (Artifact.solid_path name mapper.settings.crossPrefix client).2
  have hlength := Artifact.length_solid_path name mapper.settings.crossPrefix client
  rw [fileFor, Repository.fileOf, Path.solid_join hrelative]
  refine List.append_ne_nil_of_right_ne_nil _ ?_
  intro hnil
  rw [hnil, List.length_nil] at hlength
  split at hlength
  · omega
  · omega

/-- Every artifact lies in a directory. -/
theorem parent?_fileFor :
    (mapper.fileFor client name).parent? = some (mapper.directoryFor client name) := by
  have hsolid : Path.solid (mapper.fileFor client name) ≠ [] := solid_fileFor_ne_nil
  obtain ⟨directory, hparent⟩ := Path.exists_parent? hsolid
  rw [directoryFor, hparent]
  rfl

/-- Preparing an artifact is creating its directory. -/
theorem prepare_eq (mapper : Mapper σ) (client : Client) (name : Word) (w : Workspace σ) :
    mapper.repository.prepare (Artifact.path name mapper.settings.crossPrefix client) w.files
      = (((w.files.makeDirectories (mapper.directoryFor client name)).1.mapError
            .repositoryCreate).map fun _ => mapper.fileFor client name,
          (mapper.ready client name w).files) := by
  have hparent : (mapper.repository.fileOf
      (Artifact.path name mapper.settings.crossPrefix client)).parent? = _ := parent?_fileFor
  simp only [Repository.prepare, hparent, Repository.provide, ready]
  cases w.files.makeDirectories (mapper.directoryFor client name) with
  | mk outcome files =>
      cases outcome with
      | ok done => rfl
      | error cause => rfl

/-! ## How an import goes -/

/-- A name with a NUL byte is refused. -/
theorem pathOf_of_mem (h : Byte.nul ∈ name) :
    mapper.pathOf client name = .error (.moduleName (Text.lossy name)) := by
  have hname : name.contains Byte.nul = true := List.contains_iff_mem.mpr h
  simp only [pathOf, Artifact.checkName, hname, if_true]

theorem not_mem_of_pathOf {path : Path} (h : mapper.pathOf client name = .ok path) : Byte.nul ∉ name := by
  intro hname
  rw [pathOf_of_mem hname] at h
  cases h

/-- It is in this workspace that the artifact is examined. -/
theorem prepared_path (mapper : Mapper σ) (client : Client) (name : Word) (w : Workspace σ) :
    mapper.prepared (Artifact.path name mapper.settings.crossPrefix client) w
      = mapper.ready client name w := by
  rw [prepared, prepare_eq]
  rfl

/-- Once the steps in front of it have succeeded, an import goes by the artifact and its source. -/
theorem Prepares.examines (h : mapper.Prepares client name w) :
    mapper.Examines client name w (Artifact.path name mapper.settings.crossPrefix client)
      (mapper.fileFor client name) (mapper.sourceFor name) (mapper.invocationOf name) := by
  have hprepare := prepare_eq mapper client name w
  rw [h.created] at hprepare
  exact examines_of_prepared (pathOf_of_not_mem h.named) (congrArg Prod.fst hprepare)

/-- **A way for an import to go is the way that it goes.** -/
theorem Imports.eq {outcome : Except Failure Path} {after : Workspace σ}
    (h : mapper.Imports client name w outcome after) :
    mapper.importModule client name w = (outcome, after) := by
  cases h with
  | misnamed hname => exact importModule_of_pathOf (pathOf_of_mem hname)
  | uncreated hname hmade =>
      have hprepare := prepare_eq mapper client name w
      rw [hmade] at hprepare
      rw [importModule_of_unprepared (pathOf_of_not_mem hname) (congrArg Prod.fst hprepare), hprepare]
      rfl
  | unexamined hprepares hfound hcause =>
      rw [← prepared_path] at hfound ⊢
      exact hprepares.examines.unexamined _ hfound hcause
  | sourceless hprepares hfound horigin =>
      rw [← prepared_path] at hfound horigin ⊢
      exact hprepares.examines.sourceless _ _ hfound horigin
  | current hprepares hcurrent =>
      obtain ⟨found, origin, hfound, horigin, hnewer⟩ := hcurrent
      rw [← prepared_path] at hfound horigin ⊢
      exact hprepares.examines.newer _ _ hfound horigin hnewer
  | built hbuilds =>
      have hexamines := hbuilds.1.examines
      rw [build, ← prepared_path]
      rcases hbuilds.2 with hmissing | ⟨found, origin, hfound, horigin, hnot⟩
      · rw [← prepared_path] at hmissing
        exact hexamines.missing hmissing
      · rw [← prepared_path] at hfound horigin
        exact hexamines.older _ _ hfound horigin hnot

/-- Every import goes in one of the six ways. -/
theorem exists_imports (mapper : Mapper σ) (client : Client) (name : Word) (w : Workspace σ) :
    ∃ outcome after, mapper.Imports client name w outcome after := by
  by_cases hname : Byte.nul ∈ name
  · exact ⟨_, _, .misnamed hname⟩
  · cases hmade : (w.files.makeDirectories (mapper.directoryFor client name)).1 with
    | error cause => exact ⟨_, _, .uncreated hname hmade⟩
    | ok done =>
        have hprepares : mapper.Prepares client name w := ⟨hname, hmade⟩
        cases hfound : (mapper.ready client name w).files.stat (mapper.fileFor client name) with
        | error cause =>
            by_cases hmissing : cause = .notFound
            · rw [hmissing] at hfound
              exact ⟨_, _, .built ⟨hprepares, Or.inl hfound⟩⟩
            · exact ⟨_, _, .unexamined hprepares hfound hmissing⟩
        | ok found =>
            cases horigin : (mapper.ready client name w).files.stat (mapper.sourceFor name) with
            | error cause => exact ⟨_, _, .sourceless hprepares hfound horigin⟩
            | ok origin =>
                by_cases hnewer : found.IsNewerThan origin
                · exact ⟨_, _, .current hprepares ⟨found, origin, hfound, horigin, hnewer⟩⟩
                · exact ⟨_, _, .built ⟨hprepares, Or.inr ⟨found, origin, hfound, horigin, hnewer⟩⟩⟩

/-- **An import goes in one way only.** -/
theorem imports_iff {outcome : Except Failure Path} {after : Workspace σ} :
    mapper.Imports client name w outcome after
      ↔ mapper.importModule client name w = (outcome, after) := by
  constructor
  · exact Imports.eq
  · intro h
    obtain ⟨outcome', after', himports⟩ := exists_imports mapper client name w
    rw [himports.eq] at h
    injection h with houtcome hafter
    rw [← houtcome, ← hafter]
    exact himports

theorem Imports.unique {outcome outcome' : Except Failure Path} {after after' : Workspace σ}
    (h : mapper.Imports client name w outcome after)
    (h' : mapper.Imports client name w outcome' after') : outcome = outcome' ∧ after = after' := by
  have heq : (outcome, after) = (outcome', after') := h.eq.symm.trans h'.eq
  injection heq with houtcome hafter
  exact ⟨houtcome, hafter⟩

/-! ## When an import compiles -/

/-- While it compiles, the directory of the artifact is there. -/
theorem Builds.directory (h : mapper.Builds client name w) :
    mapper.directoryFor client name = []
      ∨ (mapper.ready client name w).files.isDirectory (mapper.directoryFor client name) = true := by
  by_cases hnil : mapper.directoryFor client name = []
  · exact Or.inl hnil
  · exact Or.inr (FileSystem.isDirectory_of_makeDirectories h.1.created hnil)

/-- Without a compilation, an import goes the same way on the record. -/
theorem Imports.recording_of_not_builds {outcome : Except Failure Path} {after : Workspace σ}
    (h : mapper.Imports client name w outcome after) (hnot : ¬ mapper.Builds client name w)
    (earlier : List (Compiler.Call σ)) :
    mapper.recording.Imports client name (w.recording earlier) outcome (after.recording earlier) := by
  cases h with
  | misnamed hname => exact .misnamed hname
  | uncreated hname hmade => exact .uncreated hname hmade
  | unexamined hprepares hfound hcause =>
      exact .unexamined ⟨hprepares.named, hprepares.created⟩ hfound hcause
  | sourceless hprepares hfound horigin =>
      exact .sourceless ⟨hprepares.named, hprepares.created⟩ hfound horigin
  | current hprepares hcurrent => exact .current ⟨hprepares.named, hprepares.created⟩ hcurrent
  | built hbuilds => exact absurd hbuilds hnot

/-- A compilation is one call on the record. -/
theorem Builds.calls (h : mapper.Builds client name w) :
    mapper.Calls client name w [mapper.callFor client name w] := by
  have hgoes : mapper.importModule client name w = _ := (Imports.built h).eq
  constructor
  · intro earlier
    have hrecording : mapper.recording.Builds client name (w.recording earlier) :=
      ⟨⟨h.1.named, h.1.created⟩, h.2⟩
    have hbuild : mapper.recording.build client name (w.recording earlier)
        = ((mapper.build client name w).1,
          (mapper.build client name w).2.recording (earlier ++ [mapper.callFor client name w])) :=
      (mapper.ready client name w).compile_recording mapper.compiler (Text.lossy name)
        (mapper.invocationOf name) earlier
    rw [(Imports.built hrecording).eq, hbuild, hgoes]
    rfl
  · rw [hgoes]
    exact (mapper.ready client name w).noted_compile mapper.compiler (Text.lossy name)
      (mapper.invocationOf name)

/-- **The calls of the compiler that an import makes**: one if it compiles, and none otherwise. -/
theorem exists_calls (mapper : Mapper σ) (client : Client) (name : Word) (w : Workspace σ) :
    ∃ made, mapper.Calls client name w made ∧ made.length ≤ 1
      ∧ (made ≠ [] ↔ mapper.Builds client name w)
      ∧ ∀ call ∈ made, call = mapper.callFor client name w := by
  by_cases hbuilds : mapper.Builds client name w
  · refine ⟨[mapper.callFor client name w], hbuilds.calls, Nat.le_refl 1, ?_, ?_⟩
    · exact ⟨fun _ => hbuilds, fun _ => List.cons_ne_nil _ _⟩
    · intro call hcall
      exact List.mem_singleton.mp hcall
  · -- the other ways of an import leave the record and the journal alone
    obtain ⟨outcome, after, hgoes⟩ := exists_imports mapper client name w
    have hjournal : after.journal = w.journal := by
      cases hgoes with
      | built hbuilds' => exact absurd hbuilds' hbuilds
      | _ => rfl
    refine ⟨[], ⟨?_, ?_⟩, Nat.zero_le 1, ?_, ?_⟩
    · intro earlier
      rw [(hgoes.recording_of_not_builds hbuilds earlier).eq, hgoes.eq, List.append_nil]
    · rw [hgoes.eq, List.map_nil, List.append_nil]
      exact hjournal
    · exact ⟨fun hne => absurd rfl hne, fun hbuilds' => absurd hbuilds' hbuilds⟩
    · intro call hcall
      cases hcall

/-- A compilation succeeds as its call does. -/
theorem fst_build (mapper : Mapper σ) (client : Client) (name : Word) (w : Workspace σ) :
    (mapper.build client name w).1 = (mapper.compiler.answer (mapper.callFor client name w)).1 :=
  (mapper.ready client name w).fst_compile mapper.compiler (Text.lossy name) (mapper.invocationOf name)

/-- An import succeeds if the artifact is up to date or is compiled, and then with the artifact's path. -/
theorem Imports.eq_ok_iff {outcome : Except Failure Path} {after : Workspace σ}
    (h : mapper.Imports client name w outcome after) (path : Path) :
    outcome = .ok path ↔ mapper.pathOf client name = .ok path
      ∧ (mapper.Prepares client name w ∧ mapper.UpToDate client name w
        ∨ mapper.Builds client name w
          ∧ (mapper.compiler.answer (mapper.callFor client name w)).1 = .ok ()) := by
  rw [← fst_build]
  constructor
  · intro hok
    cases h with
    | current hprepares hcurrent =>
        refine ⟨?_, Or.inl ⟨hprepares, hcurrent⟩⟩
        rw [← hok]
        exact pathOf_of_not_mem hprepares.named
    | built hbuilds =>
        cases hbuild : (mapper.build client name w).1 with
        | error failure =>
            rw [hbuild] at hok
            cases hok
        | ok done =>
            rw [hbuild] at hok
            refine ⟨?_, Or.inr ⟨hbuilds, rfl⟩⟩
            rw [← hok]
            exact pathOf_of_not_mem hbuilds.1.named
    | _ => cases hok
  · rintro ⟨hpath, ⟨hprepares, hcurrent⟩ | ⟨hbuilds, hbuild⟩⟩
    · rw [(h.unique (.current hprepares hcurrent)).1, ← pathOf_of_not_mem hprepares.named]
      exact hpath
    · rw [(h.unique (.built hbuilds)).1, hbuild, ← hpath]
      exact (pathOf_of_not_mem hbuilds.1.named).symm

/-- What an import comes to: the way it goes, the calls of the compiler that it makes, the directory of the
    artifact, and when it succeeds. -/
structure Decided (mapper : Mapper σ) (client : Client) (name : Word) (w : Workspace σ)
    (outcome : Except Failure Path) (after : Workspace σ) : Prop where
  goes : mapper.Imports client name w outcome after
  called : ∃ made, mapper.Calls client name w made ∧ made.length ≤ 1
    ∧ (made ≠ [] ↔ mapper.Builds client name w)
    ∧ ∀ call ∈ made, call.name = Text.lossy name ∧ call.invocation = mapper.invocationOf name
      ∧ call.state = w.compilerState ∧ call.files = (mapper.ready client name w).files
  parent : (mapper.fileFor client name).parent? = some (mapper.directoryFor client name)
  there : mapper.Builds client name w → mapper.directoryFor client name = []
    ∨ (mapper.ready client name w).files.isDirectory (mapper.directoryFor client name) = true
  succeeds : ∀ path, outcome = .ok path ↔ mapper.pathOf client name = .ok path
    ∧ (mapper.Prepares client name w ∧ mapper.UpToDate client name w
      ∨ mapper.Builds client name w
        ∧ (mapper.compiler.answer (mapper.callFor client name w)).1 = .ok ())

/-- **An import compiles at most once, and exactly if its artifact can be prepared and is missing or did not
    change strictly after its source.** -/
theorem importModule_decided (mapper : Mapper σ) (client : Client) (name : Word) (w : Workspace σ) :
    mapper.Decided client name w (mapper.importModule client name w).1
      (mapper.importModule client name w).2 := by
  have hgoes : mapper.Imports client name w (mapper.importModule client name w).1
      (mapper.importModule client name w).2 := imports_iff.mpr rfl
  refine ⟨hgoes, ?_, parent?_fileFor, Builds.directory, hgoes.eq_ok_iff⟩
  obtain ⟨made, hmade, hlength, hbuilds, hcall⟩ := exists_calls mapper client name w
  refine ⟨made, hmade, hlength, hbuilds, ?_⟩
  intro call hmem
  rw [hcall call hmem]
  exact ⟨rfl, rfl, rfl, rfl⟩

end Mapper

end ModuleMapper
