import ModuleMapper.Proofs.ColdCache
import ModuleMapper.Proofs.Rebuilding

/-!
# Repetition — imports that have nothing left to do

  Once the artifact of a name is there and newer than its source, its import is *settled*: to import it
  again finds everything in its place and changes nothing (`Settled.importModule_eq`), and neither does to
  ask for another path, nor to provide the repository, whose root was passed on the way to the artifact
  (`Settled.provideRepository_eq`).

  So a settled import stays settled, whatever is asked for besides it and however often
  (`Settled.handleAll_eq`).  And an import settles once it has succeeded without compiling, or by a
  compilation that left the artifact newer than its source (`imports_settle`).
-/

namespace ModuleMapper

/-! ## Roots that were passed -/

namespace Repository

variable {repository : Repository} {files : FileSystem} {root artifact : Path} {found : Entry}

/-- The root lies on the way to whatever is found in the repository. -/
theorem exists_walk_root (hrelative : artifact.isAbsolute = false)
    (h : files.stat (repository.fileOf artifact) = .ok found) :
    ∃ place, files.walk (files.start repository.root) (FileSystem.steps repository.root) = .ok place := by
  obtain ⟨-, last, hwalk⟩ := FileSystem.exists_of_stat h
  rw [fileOf, FileSystem.start_join files _ hrelative, FileSystem.steps_join hrelative] at hwalk
  obtain ⟨place, hplace, -⟩ := FileSystem.exists_of_walk_append hwalk
  exact ⟨place, hplace⟩

/-- No name is missing on the way to the absolute root if the root can be followed by itself. -/
theorem walk_absoluteRoot (hstanding : repository.root.isAbsolute = false → files.Standing)
    (habsolute : repository.absoluteRoot files = .ok root) {place : Place}
    (h : files.walk (files.start repository.root) (FileSystem.steps repository.root) = .ok place) :
    root ≠ [] ∧ files.walk (files.start root) (FileSystem.steps root) ≠ .error .notFound := by
  rcases absoluteRoot_cases habsolute with ⟨hroot, rfl⟩ | ⟨hroot, directory, hdirectory, rfl⟩
  · refine ⟨?_, ?_⟩
    · intro hnil
      rw [hnil] at hroot
      cases hroot
    · rw [h]
      intro heq
      cases heq
  · -- from the working directory on, the root is followed as it is by itself
    obtain ⟨hadrift, rfl⟩ := FileSystem.eq_pathOf_of_currentDir hdirectory
    have hstart : files.start repository.root = .entry files.workingDir := by
      rw [FileSystem.start, hroot, hadrift]
      rfl
    rw [hstart] at h
    refine ⟨Path.join_ne_nil (List.cons_ne_nil _ _), ?_⟩
    rw [FileSystem.start_join files _ hroot, FileSystem.steps_join hroot,
      (hstanding hroot).steps_pathOf]
    exact (hstanding hroot).walk_workingDir_append hadrift h

/-- **Where something is found in the repository, providing the root changes nothing.** -/
theorem files_provideRoot_of_stat (hstanding : repository.root.isAbsolute = false → files.Standing)
    (hrelative : artifact.isAbsolute = false)
    (h : files.stat (repository.fileOf artifact) = .ok found) :
    (repository.provideRoot files).2 = files := by
  cases habsolute : repository.absoluteRoot files with
  | error failure => rw [provideRoot, habsolute]
  | ok root =>
      obtain ⟨place, hplace⟩ := exists_walk_root hrelative h
      obtain ⟨hne, hwalk⟩ := walk_absoluteRoot hstanding habsolute hplace
      rw [files_provideRoot habsolute]
      exact (FileSystem.makeDirectories_of_walk hne hwalk).1

end Repository

namespace Mapper

open Connection (plainClient)

/-! ## What a mapper is asked -/

/-- Something that a mapper is asked for. -/
inductive Query where
  /-- The root of the repository. -/
  | repository
  /-- The path of an artifact, for a client. -/
  | moduleExport (client : Client) (name : Word)
  /-- An artifact that is up to date, for a client. -/
  | moduleImport (client : Client) (name : Word)
  deriving Repr, DecidableEq

variable {σ : Type}

/-- What comes of a query. -/
def handle (mapper : Mapper σ) (query : Query) (w : Workspace σ) : Except Failure Path × Workspace σ :=
  match query with
  | .repository => mapper.provideRepository w
  | .moduleExport client name => (mapper.pathOf client name, w)
  | .moduleImport client name => mapper.importModule client name w

/-- What comes of queries, one after another. -/
def handleAll (mapper : Mapper σ) : List Query → Workspace σ → List (Except Failure Path) × Workspace σ
  | [], w => ([], w)
  | query :: others, w =>
      ((mapper.handle query w).1 :: (mapper.handleAll others (mapper.handle query w).2).1,
        (mapper.handleAll others (mapper.handle query w).2).2)

/-- A query imports nothing, unless it is this name for this client. -/
def Query.ImportsOnly (client : Client) (name : Word) (query : Query) : Prop :=
  ∀ other word, query = .moduleImport other word → other = client ∧ word = name

variable {mapper : Mapper σ} {client : Client} {name : Word} {w : Workspace σ}

/-! ## Settled imports -/

/-- To import a name has nothing left to do for a client. -/
structure Settled (mapper : Mapper σ) (client : Client) (name : Word) (w : Workspace σ) : Prop where
  named : Byte.nul ∉ name
  newer : mapper.HasNewer client name w.files
  /-- The process stands in a directory that has a path, if the repository is below it. -/
  standing : mapper.settings.repositoryDir.isAbsolute = false → w.files.Standing

namespace Settled

/-- The directories above the artifact are there. -/
theorem makeDirectories_eq (h : mapper.Settled client name w) :
    w.files.makeDirectories (mapper.directoryFor client name) = (.ok (), w.files) := by
  obtain ⟨found, origin, hfound, -, -⟩ := h.newer
  exact FileSystem.makeDirectories_of_stat hfound solid_fileFor_ne_nil parent?_fileFor

theorem ready_eq (h : mapper.Settled client name w) : mapper.ready client name w = w := by
  rw [ready, h.makeDirectories_eq]

/-- **A settled import changes nothing**: it answers with the artifact's path. -/
theorem importModule_eq (h : mapper.Settled client name w) :
    mapper.importModule client name w
      = (.ok (Artifact.path name mapper.settings.crossPrefix client), w) := by
  have hprepares : mapper.Prepares client name w :=
    ⟨h.named, congrArg Prod.fst h.makeDirectories_eq⟩
  have hcurrent : mapper.UpToDate client name w := by
    rw [UpToDate, h.ready_eq]
    exact h.newer
  rw [(Imports.current hprepares hcurrent).eq, h.ready_eq]

/-- The repository is there. -/
theorem provideRepository_eq (h : mapper.Settled client name w) :
    (mapper.provideRepository w).2 = w := by
  obtain ⟨found, origin, hfound, -, -⟩ := h.newer
  have hfiles := Repository.files_provideRoot_of_stat h.standing
    (Artifact.solid_path name mapper.settings.crossPrefix client).2 hfound
  show { w with files := (mapper.repository.provideRoot w.files).2 } = w
  rw [hfiles]

/-- Beside a settled import, nothing that is asked for changes anything. -/
theorem handle_eq (h : mapper.Settled client name w) {query : Query}
    (hquery : query.ImportsOnly client name) : (mapper.handle query w).2 = w := by
  cases query with
  | repository => exact h.provideRepository_eq
  | moduleExport other word => rfl
  | moduleImport other word =>
      obtain ⟨rfl, rfl⟩ := hquery other word rfl
      exact congrArg Prod.snd h.importModule_eq

/-- **Beside a settled import nothing changes, however much is asked for**, and every answer is what it
    would have been at first.  Induction on the queries. -/
theorem handleAll_eq (h : mapper.Settled client name w) {queries : List Query}
    (hqueries : ∀ query ∈ queries, query.ImportsOnly client name) :
    mapper.handleAll queries w = (queries.map fun query => (mapper.handle query w).1, w) := by
  induction queries with
  | nil => rfl
  | cons query others ih =>
      obtain ⟨hquery, hothers⟩ := List.forall_mem_cons.mp hqueries
      rw [handleAll, h.handle_eq hquery, ih hothers]
      rfl

end Settled

/-- **An import settles** once it has succeeded, if it did not compile or if the artifact is newer than its
    source then. -/
theorem settled_of_importModule {path : Path} (hok : (mapper.importModule client name w).1 = .ok path)
    (hnewer : (mapper.importModule client name w).2.journal = w.journal
      ∨ mapper.HasNewer client name (mapper.importModule client name w).2.files)
    (hstanding : mapper.settings.repositoryDir.isAbsolute = false →
      (mapper.importModule client name w).2.files.Standing) :
    mapper.Settled client name (mapper.importModule client name w).2 := by
  have hgoes : mapper.Imports client name w (mapper.importModule client name w).1
      (mapper.importModule client name w).2 := imports_iff.mpr rfl
  refine ⟨not_mem_of_pathOf (pathOf_of_importModule hok), ?_, hstanding⟩
  rcases hnewer with hjournal | hnewer
  · -- without a compilation it has found the artifact up to date
    obtain ⟨made, hmade, -, hbuilds, -⟩ := exists_calls mapper client name w
    have hnone : made = [] := by
      have hnoted := hmade.noted
      rw [hjournal] at hnoted
      exact List.map_eq_nil_iff.mp (List.self_eq_append_right.mp hnoted)
    rcases ((hgoes.eq_ok_iff path).mp hok).2 with ⟨hprepares, hcurrent⟩ | ⟨hbuild, -⟩
    · rw [(hgoes.unique (.current hprepares hcurrent)).2]
      exact hcurrent
    · exact absurd hnone (hbuilds.mpr hbuild)
  · exact hnewer

/-- **Imports settle.**  Once an import has succeeded, without compiling or by a compilation that left the
    artifact newer than its source, nothing changes any more, as long as a process that has a relative
    repository stands in a directory that has a path: whatever list of queries follows, if it imports
    nothing but this name for this client, the workspace stays as it is, with its files and its journal,
    and every import gets the same path. -/
theorem imports_settle {path : Path} (hok : (mapper.importModule client name w).1 = .ok path)
    (hnewer : (mapper.importModule client name w).2.journal = w.journal
      ∨ mapper.HasNewer client name (mapper.importModule client name w).2.files)
    (hstanding : mapper.settings.repositoryDir.isAbsolute = false →
      (mapper.importModule client name w).2.files.Standing)
    (queries : List Query) (hqueries : ∀ query ∈ queries, query.ImportsOnly client name) :
    (mapper.handleAll queries (mapper.importModule client name w).2).2
        = (mapper.importModule client name w).2
      ∧ (mapper.handleAll queries (mapper.importModule client name w).2).1.length = queries.length
      ∧ ∀ (index : Nat) (other : Client) (word : Word),
          queries[index]? = some (.moduleImport other word) →
          (mapper.handleAll queries (mapper.importModule client name w).2).1[index]?
            = some (.ok path) := by
  have hsettled := settled_of_importModule hok hnewer hstanding
  have hpath : (mapper.importModule client name (mapper.importModule client name w).2).1 = .ok path := by
    rw [hsettled.importModule_eq, eq_path_of_pathOf (pathOf_of_importModule hok)]
  rw [hsettled.handleAll_eq hqueries]
  refine ⟨rfl, List.length_map _, fun index other word hindex => ?_⟩
  obtain ⟨rfl, rfl⟩ := hqueries _ (List.mem_of_getElem? hindex) other word rfl
  show (queries.map _)[index]? = _
  rw [List.getElem?_map, hindex]
  exact congrArg some hpath

/-- A mapper whose compiler writes a file at a location, whatever it is called for. -/
def writingTo (location : Location) : Mapper Unit where
  settings := {}
  compiler := { compile := fun _ _ state files =>
    (.ok (), state, files.put location (.file [] files.now false)) }

/-- A workspace with a source that is older than whatever is made now. -/
def sourceSpace : Workspace Unit where
  files := { Artifact.homeFiles with
    entries := ([Bytes.ofString "foo.cpp", Bytes.ofString "home"], .file [] ⟨0, 0⟩ false)
      :: Artifact.homeFiles.entries }
  compilerState := ()

/-- The artifact of the source, for a client with a build identity. -/
def fooArtifact : Path :=
  Bytes.ofString "2c26b46b68ffc68ff99b453c1d30413413422d706483bfa0f98a5e886266e7ae-b-c"

/-- A mapper that compiles the source. -/
def writingFoo : Mapper Unit :=
  writingTo [fooArtifact, Bytes.ofString ".modules-cmi", Bytes.ofString "home"]

/-- The workspace behind the import of the source. -/
def compiledSpace : Workspace Unit :=
  (writingFoo.importModule plainClient (Bytes.ofString "foo") sourceSpace).2

/-- What is asked for then. -/
def laterQueries : List Query :=
  [.repository, .moduleImport plainClient (Bytes.ofString "foo"),
   .moduleExport {} (Bytes.ofString "bar"), .moduleImport plainClient (Bytes.ofString "foo")]

/-- The first import compiles, and the later ones find what it has made. -/
theorem imports_settle_writingFoo :
    (writingFoo.importModule plainClient (Bytes.ofString "foo") sourceSpace).1 = .ok fooArtifact
      ∧ compiledSpace.journal ≠ []
      ∧ writingFoo.HasNewer plainClient (Bytes.ofString "foo") compiledSpace.files
      ∧ compiledSpace.files.Standing
      ∧ (∀ query ∈ laterQueries, query.ImportsOnly plainClient (Bytes.ofString "foo"))
      ∧ (writingFoo.handleAll laterQueries compiledSpace).2 = compiledSpace
      ∧ (writingFoo.handleAll laterQueries compiledSpace).1[3]? = some (.ok fooArtifact) := by
  rw [compiledSpace]
  have hok : (writingFoo.importModule plainClient (Bytes.ofString "foo") sourceSpace).1
      = .ok fooArtifact := by
    decide +kernel
  have hnewer : writingFoo.HasNewer plainClient (Bytes.ofString "foo")
      (writingFoo.importModule plainClient (Bytes.ofString "foo") sourceSpace).2.files :=
    ⟨.file [] ⟨1, 0⟩ false, .file [] ⟨0, 0⟩ false, by decide +kernel, by decide +kernel, by decide⟩
  have htree :
      (writingFoo.importModule plainClient (Bytes.ofString "foo") sourceSpace).2.files.IsTree :=
    ⟨by decide +kernel, by decide +kernel, by decide +kernel⟩
  have hqueries : ∀ query ∈ laterQueries, query.ImportsOnly plainClient (Bytes.ofString "foo") := by
    intro query hquery other word heq
    subst heq
    simp only [laterQueries, List.mem_cons, reduceCtorEq, false_or, List.not_mem_nil, or_false,
      Query.moduleImport.injEq, or_self] at hquery
    exact hquery
  obtain ⟨hsame, -, hpaths⟩ :=
    imports_settle hok (Or.inr hnewer) (fun _ => htree.standing) laterQueries hqueries
  exact ⟨hok, by decide +kernel, hnewer, htree.standing, hqueries, hsame,
    hpaths 3 plainClient (Bytes.ofString "foo") rfl⟩

end Mapper

end ModuleMapper
