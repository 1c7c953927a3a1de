import Mathlib.Control.Monad.Basic
import ModuleMapper.Proofs.Confinement
import ModuleMapper.Proofs.Effects

/-!
# Resolution — a client finds the file that was examined

  A client is told the root of the repository, once, and the paths of artifacts inside it.  It joins the
  two; the mapper joins an artifact's path to the directory that its settings name.  Since joining is
  associative, both arrive at one path, to which the working directory is added if the settings name a
  relative directory (`join_of_provideRoot`).

  `Mapper.Examines` says what it means that an import goes by a file and a source: what is found under the two
  paths, and which of the two changed last, decides whether the import fails, compiles, or has nothing to
  do.
-/

namespace ModuleMapper

/-! ## Roots -/

namespace Repository

variable {repository : Repository} {files : FileSystem} {root : Path}

/-- The root that is answered is absolute. -/
theorem absoluteRoot_of_provideRoot (h : (repository.provideRoot files).1 = .ok root) :
    repository.absoluteRoot files = .ok root := by
  rw [provideRoot] at h
  cases hroot : repository.absoluteRoot files with
  | error failure =>
      rw [hroot] at h
      cases h
  | ok absolute =>
      rw [hroot] at h
      simp only at h
      split at h
      · exact congrArg Except.ok (Except.ok.inj h)
      · cases h

/-- In a relative repository, files have relative paths. -/
theorem isAbsolute_fileOf (hroot : repository.root.isAbsolute = false) {artifact : Path}
    (hartifact : artifact.isAbsolute = false) : (repository.fileOf artifact).isAbsolute = false := by
  by_cases hnil : repository.root = []
  · have hfile : repository.fileOf artifact = artifact := by
      rw [fileOf, hnil, Path.join_of_relative [] hartifact]
      rfl
    rw [hfile, hartifact]
  · rw [fileOf, Path.isAbsolute_join hnil hartifact, hroot]

/-- **A path that is joined to the root is where the repository has its file**: byte for byte if the
    repository is an absolute path, and behind the working directory if it is a relative one. -/
theorem join_of_provideRoot (h : (repository.provideRoot files).1 = .ok root) (artifact : Path) :
    (repository.root.isAbsolute = true → root.join artifact = repository.fileOf artifact)
      ∧ (repository.root.isAbsolute = false →
          ∃ directory, files.currentDir = .ok directory
            ∧ root.join artifact = directory.join (repository.fileOf artifact)) := by
  rcases absoluteRoot_cases (absoluteRoot_of_provideRoot h) with
    ⟨habsolute, rfl⟩ | ⟨hrelative, directory, hdirectory, rfl⟩
  · refine ⟨fun _ => rfl, fun hroot => ?_⟩
    rw [habsolute] at hroot
    cases hroot
  · refine ⟨fun hroot => ?_, fun _ => ⟨directory, hdirectory, ?_⟩⟩
    · rw [hrelative] at hroot
      cases hroot
    · exact Path.join_assoc directory repository.root artifact

end Repository

/-- Behind the path of the working directory, a relative path leads where it leads by itself. -/
theorem FileSystem.Standing.target_join {files : FileSystem} (hstanding : files.Standing)
    {directory path : Path} (h : files.currentDir = .ok directory) (hpath : path.isAbsolute = false) :
    files.target (directory.join path) = files.target path := by
  obtain ⟨hadrift, rfl⟩ := eq_pathOf_of_currentDir h
  rw [target, target, start_join files _ hpath, Path.solid_join hpath, hstanding.solid_pathOf,
    Place.aimAll_append]
  -- from the top, the names of the directory lead to where the path starts by itself
  show (Place.aimAll files.workingDir (.entry []) files.workingDir.reverse).bind _ = _
  rw [hstanding.aimAll_workingDir, start, hpath, hadrift]
  rfl

/-- The root that a session answers is the one that its mapper provides. -/
theorem Session.provideRepository_of_answer {σ : Type} {mapper : Mapper σ} {s : Session σ}
    {message : Message} {root : Path} (hasks : Request.ofMessage? message = some .repository)
    (h : (answer mapper message s).1 = .ok (.pathName root)) :
    (mapper.provideRepository s.workspace).1 = .ok root := by
  rw [answer, hasks] at h
  obtain ⟨-, hserved⟩ := eq_pathName_of_whenReady h
  exact eq_ok_of_replyOf hserved

/-! ## Comparing times -/

/-- Did an entry change strictly after another one, to the nanosecond? -/
def Entry.IsNewerThan (entry other : Entry) : Prop :=
  other.modified.seconds < entry.modified.seconds
    ∨ other.modified.seconds = entry.modified.seconds
      ∧ other.modified.nanoseconds < entry.modified.nanoseconds

instance (entry other : Entry) : Decidable (entry.IsNewerThan other) :=
  inferInstanceAs (Decidable (_ ∨ _))

theorem Entry.isNewerThan_iff {entry other : Entry} :
    entry.IsNewerThan other ↔ other.modified.before entry.modified = true := by
  rw [Timestamp.before, Bool.or_eq_true, Bool.and_eq_true, decide_eq_true_iff, decide_eq_true_iff,
    beq_iff_eq]
  exact Iff.rfl

namespace Freshness

variable {files : FileSystem} {artifact source : Path} {found origin : Entry} {cause : SystemError}

/-- While there is no artifact, nobody looks at the source. -/
theorem of_of_missing (h : files.stat artifact = .error .notFound) (source : Path) :
    of files artifact source = .ok missing := by
  rw [of, h]
  rfl

theorem of_of_unexamined (h : files.stat artifact = .error cause) (hcause : cause ≠ .notFound) :
    of files artifact source = .error (.artifactStat artifact cause) := by
  rw [of, h]
  split
  · next heq =>
      injection heq with heq
      exact absurd heq hcause
  · next heq =>
      injection heq with heq
      rw [heq]
  · next heq => cases heq

theorem of_of_sourceless (h : files.stat artifact = .ok found) (hsource : files.stat source = .error cause) :
    of files artifact source = .error (.sourceStat source cause) := by
  rw [of, h]
  simp only [hsource]

theorem of_of_newer (h : files.stat artifact = .ok found) (hsource : files.stat source = .ok origin)
    (hnewer : found.IsNewerThan origin) : of files artifact source = .ok fresh := by
  rw [of, h]
  simp only [hsource]
  rw [ofTimes, if_pos (Entry.isNewerThan_iff.mp hnewer)]

theorem of_of_not_newer (h : files.stat artifact = .ok found) (hsource : files.stat source = .ok origin)
    (hnewer : ¬ found.IsNewerThan origin) : of files artifact source = .ok stale := by
  rw [of, h]
  simp only [hsource]
  rw [ofTimes, if_neg (mt Entry.isNewerThan_iff.mpr hnewer)]

end Freshness

/-! ## What an import examines -/

namespace Mapper

variable {σ : Type} {mapper : Mapper σ} {client : Client} {name : Word} {w : Workspace σ}

/-- The workspace with the directories above an artifact. -/
def prepared (mapper : Mapper σ) (artifact : Path) (w : Workspace σ) : Workspace σ :=
  { w with files := (mapper.repository.prepare artifact w.files).2 }

/-- The source that a name refers to. -/
def sourceFor (mapper : Mapper σ) (name : Word) : Path := (mapper.unitOf name).source

/-- What becomes of an import that carries out an invocation, with the directories above the artifact in
    place. -/
def compiled (mapper : Mapper σ) (name : Word) (artifact : Path) (invocation : Invocation)
    (w : Workspace σ) : Except Failure Path × Workspace σ :=
  let (outcome, after) :=
    (mapper.prepared artifact w).compile mapper.compiler (Text.lossy name) invocation
  (outcome.map fun _ => artifact, after)

/-- An import goes by a file and a source, with the directories above the artifact in place.  It looks at the
    file, and at the source if there is a file, and names the one of them that it cannot look at.  If there
    is no file, or if it did not change strictly after the source, it carries out the invocation. -/
structure Examines (mapper : Mapper σ) (client : Client) (name : Word) (w : Workspace σ)
    (artifact file source : Path) (invocation : Invocation) : Prop where
  missing : (mapper.prepared artifact w).files.stat file = .error .notFound →
    mapper.importModule client name w = mapper.compiled name artifact invocation w
  unexamined : ∀ cause, (mapper.prepared artifact w).files.stat file = .error cause → cause ≠ .notFound →
    mapper.importModule client name w = (.error (.artifactStat file cause), mapper.prepared artifact w)
  sourceless : ∀ found cause, (mapper.prepared artifact w).files.stat file = .ok found →
    (mapper.prepared artifact w).files.stat source = .error cause →
    mapper.importModule client name w = (.error (.sourceStat source cause), mapper.prepared artifact w)
  newer : ∀ found origin, (mapper.prepared artifact w).files.stat file = .ok found →
    (mapper.prepared artifact w).files.stat source = .ok origin → found.IsNewerThan origin →
    mapper.importModule client name w = (.ok artifact, mapper.prepared artifact w)
  older : ∀ found origin, (mapper.prepared artifact w).files.stat file = .ok found →
    (mapper.prepared artifact w).files.stat source = .ok origin → ¬ found.IsNewerThan origin →
    mapper.importModule client name w = mapper.compiled name artifact invocation w

/-- **An import goes by the file that the repository has for the artifact, and by the source of its name**,
    once the directories above the artifact can be made. -/
theorem examines_of_prepared {artifact file : Path} (hpath : mapper.pathOf client name = .ok artifact)
    (h : (mapper.repository.prepare artifact w.files).1 = .ok file) :
    mapper.Examines client name w artifact (mapper.repository.fileOf artifact) (mapper.sourceFor name)
      (mapper.invocationOf name) := by
  have himport : mapper.importModule client name w
      = ((mapper.refresh name (mapper.repository.fileOf artifact) (mapper.prepared artifact w)).1.map
          fun _ => artifact,
        (mapper.refresh name (mapper.repository.fileOf artifact) (mapper.prepared artifact w)).2) :=
    importModule_of_prepared hpath h
  refine ⟨?_, ?_, ?_, ?_, ?_⟩
  · intro hmissing
    rw [himport, refresh_of_outdated (Freshness.of_of_missing hmissing _) (by decide)]
    rfl
  · intro cause hfound hcause
    rw [himport, refresh_of_error (Freshness.of_of_unexamined hfound hcause)]
    rfl
  · intro found cause hfound horigin
    rw [himport, refresh_of_error (Freshness.of_of_sourceless hfound horigin)]
    rfl
  · intro found origin hfound horigin hnewer
    rw [himport, refresh_of_fresh (Freshness.of_of_newer hfound horigin hnewer)]
    rfl
  · intro found origin hfound horigin hnot
    rw [himport, refresh_of_outdated (Freshness.of_of_not_newer hfound horigin hnot) (by decide)]
    rfl

/-- A path is the one of a name's artifact for a client: it is inside the repository, it is what exports and
    imports give, by themselves and in replies, and imports go by its file. -/
structure Locates (mapper : Mapper σ) (client : Client) (name : Word) (artifact : Path) : Prop where
  relative : artifact.isAbsolute = false
  exported : mapper.pathOf client name = .ok artifact
  imported : ∀ w path, (mapper.importModule client name w).1 = .ok path → path = artifact
  replied : ∀ (s : Session σ) (message : Message) (path : Path), s.client = client →
    message.AsksFor name → (Session.answer mapper message s).1 = .ok (.pathName path) → path = artifact
  examined : ∀ w, mapper.Examines client name w artifact (mapper.repository.fileOf artifact)
      (mapper.sourceFor name) (mapper.invocationOf name)
    ∨ ∃ failure, (mapper.repository.prepare artifact w.files).1 = .error failure
      ∧ mapper.importModule client name w = (.error failure, mapper.prepared artifact w)

/-- A name without a NUL byte has an artifact for every client. -/
theorem locates_path (mapper : Mapper σ) (client : Client) (hname : Byte.nul ∉ name) :
    mapper.Locates client name (Artifact.path name mapper.settings.crossPrefix client) where
  relative := (Artifact.solid_path name mapper.settings.crossPrefix client).2
  exported := pathOf_of_not_mem hname
  imported := fun _ _ himport => eq_path_of_pathOf (pathOf_of_importModule himport)
  replied := by
    intro s message path hclient hasks hanswer
    rw [← hclient]
    exact (Session.path_of_answer hasks hanswer).2
  examined := by
    intro w
    cases hprepare : (mapper.repository.prepare
        (Artifact.path name mapper.settings.crossPrefix client) w.files).1 with
    | error failure =>
        exact Or.inr ⟨failure, rfl, importModule_of_unprepared (pathOf_of_not_mem hname) hprepare⟩
    | ok file => exact Or.inl (examines_of_prepared (pathOf_of_not_mem hname) hprepare)

/-- **A client finds the file that was examined.**  Whatever the settings are, a name without a NUL byte
    has an artifact for every client.  And whenever a root is provided, for a client that asks for the
    repository too, the artifact's path joined to it is the file that imports go by, byte for byte, if the
    repository is an absolute path.  If it is a relative one, it is the working directory joined with this
    file, and leads where the file does. -/
theorem found_where_examined (mapper : Mapper σ) (client : Client) (hname : Byte.nul ∉ name) :
    (∀ (s : Session σ) message root, Request.ofMessage? message = some .repository →
        (Session.answer mapper message s).1 = .ok (.pathName root) →
          (mapper.provideRepository s.workspace).1 = .ok root)
      ∧ ∃ artifact, mapper.Locates client name artifact
        ∧ ∀ w root, (mapper.provideRepository w).1 = .ok root →
            (mapper.settings.repositoryDir.isAbsolute = true →
                root.join artifact = mapper.repository.fileOf artifact)
              ∧ (mapper.settings.repositoryDir.isAbsolute = false →
                ∃ directory, w.files.currentDir = .ok directory
                  ∧ root.join artifact = directory.join (mapper.repository.fileOf artifact)
                  ∧ ∀ files : FileSystem, files.Standing → files.currentDir = .ok directory →
                      files.target (root.join artifact)
                        = files.target (mapper.repository.fileOf artifact)) := by
  have hlocates := locates_path mapper client hname
  refine ⟨fun s message root => Session.provideRepository_of_answer, _, hlocates, ?_⟩
  intro w root hroot
  have hprovided : (mapper.repository.provideRoot w.files).1 = .ok root := hroot
  obtain ⟨habsolute, hjoined⟩ := Repository.join_of_provideRoot hprovided
    (Artifact.path name mapper.settings.crossPrefix client)
  refine ⟨habsolute, ?_⟩
  intro hdir
  obtain ⟨directory, hdirectory, hsame⟩ := hjoined hdir
  refine ⟨directory, hdirectory, hsame, ?_⟩
  intro files hstanding hthere
  rw [hsame]
  exact hstanding.target_join hthere (Repository.isAbsolute_fileOf hdir hlocates.relative)

/-- A mapper that keeps its artifacts in a directory, with a compiler that does nothing. -/
def keptIn (directory : String) : Mapper Unit :=
  { Mapper.idle with settings := { repositoryDir := Bytes.ofString directory } }

/-- The workspace of a mapper that was started in a directory of its own. -/
def homeSpace : Workspace Unit := { files := Artifact.homeFiles, compilerState := () }

/-- What a client finds if the repository is the working directory, a directory below it that is written
    with a `.` and a slash at its end, and an absolute path. -/
theorem found_where_examined_homeSpace :
    Byte.nul ∉ Bytes.ofString "foo"
      ∧ (∃ artifact, (keptIn "").Locates Connection.clang (Bytes.ofString "foo") artifact
        ∧ Path.join (Bytes.ofString "/home/") artifact
          = Path.join (Bytes.ofString "/home") ((keptIn "").repository.fileOf artifact))
      ∧ (∃ artifact, (keptIn "./cmi/").Locates Connection.clang (Bytes.ofString "foo") artifact
        ∧ Path.join (Bytes.ofString "/home/./cmi/") artifact
          = Path.join (Bytes.ofString "/home") ((keptIn "./cmi/").repository.fileOf artifact))
      ∧ ∃ artifact, (keptIn "/srv/cmi").Locates Connection.clang (Bytes.ofString "foo") artifact
        ∧ Path.join (Bytes.ofString "/srv/cmi") artifact
          = (keptIn "/srv/cmi").repository.fileOf artifact := by
  have hname : Byte.nul ∉ Bytes.ofString "foo" := by decide
  have hhome : Artifact.homeFiles.currentDir = .ok (Bytes.ofString "/home") := by decide
  refine ⟨hname, ?_, ?_, ?_⟩
  · obtain ⟨-, artifact, hlocates, hfound⟩ :=
      found_where_examined (keptIn "") Connection.clang hname
    obtain ⟨directory, hdirectory, hsame, -⟩ :=
      (hfound homeSpace (Bytes.ofString "/home/") (by decide +kernel)).2 (by decide)
    rw [← Except.ok.inj (hhome.symm.trans hdirectory)] at hsame
    exact ⟨artifact, hlocates, hsame⟩
  · obtain ⟨-, artifact, hlocates, hfound⟩ :=
      found_where_examined (keptIn "./cmi/") Connection.clang hname
    obtain ⟨directory, hdirectory, hsame, -⟩ :=
      (hfound homeSpace (Bytes.ofString "/home/./cmi/") (by decide +kernel)).2 (by decide)
    rw [← Except.ok.inj (hhome.symm.trans hdirectory)] at hsame
    exact ⟨artifact, hlocates, hsame⟩
  · obtain ⟨-, artifact, hlocates, hfound⟩ :=
      found_where_examined (keptIn "/srv/cmi") Connection.clang hname
    exact ⟨artifact, hlocates,
      (hfound homeSpace (Bytes.ofString "/srv/cmi") (by decide +kernel)).1 (by decide)⟩

end Mapper

end ModuleMapper
