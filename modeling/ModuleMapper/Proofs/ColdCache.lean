import ModuleMapper.Proofs.Artifacts
import ModuleMapper.Proofs.Effects

/-!
# Cold cache — nothing is taken for an artifact that nobody has compiled

  A mapper that starts without a repository makes directories in it, and these might be taken for
  artifacts.  They are not, as long as clients are flat: whatever is made below the root is named by two
  digits, so that the repository stays *barren* (`Session.unspoilt_answer`), and the name of an artifact is
  longer than that.  So every import that is answered with a path has compiled (`compiled_of_import`).

  A client that is not flat puts a directory where the artifact of a flat one belongs, and then the import
  of that one does not compile (`not_compiled_of_import`).
-/

namespace ModuleMapper

namespace FileSystem

variable {files grown : FileSystem} {root : Path} {made : Location → Prop}

/-- Below the foot of a path that can be followed there is nothing but what has a name of two bytes. -/
structure Barren (files : FileSystem) (root : Path) : Prop where
  grounded : ∃ place, files.walk (files.start root) (ascent root) = .ok place
  short : Passable root → ∀ base, files.walk (files.start root) (ascent root) = .ok (.entry base) →
    ∀ name location, files.find? (name :: location) ≠ none → foot root base <:+ location →
      name.length = 2

/-- In a tree, a directory that does not exist is barren. -/
theorem barren_of_isDirectory (htree : files.IsTree)
    (hground : ∃ place, files.walk (files.start root) (ascent root) = .ok place)
    (h : files.isDirectory root = false) : files.Barren root where
  grounded := hground
  short := by
    intro hpassable base hbase name location hfind hbelow
    have hdirectory := isDirectory_of_directories hpassable hbase fun higher hhigher =>
      htree.directory_of_suffix hfind (hhigher.trans hbelow)
    rw [h] at hdirectory
    cases hdirectory

/-- A directory stays barren if only names of two bytes are made below it. -/
theorem Barren.grows (h : files.Barren root) (hgrows : Grows files grown made)
    (hmade : ∀ base, files.walk (files.start root) (ascent root) = .ok (.entry base) →
      ∀ name location, made (name :: location) → files.find? (name :: location) = none →
        foot root base <:+ location → name.length = 2) : grown.Barren root := by
  obtain ⟨place, hplace⟩ := h.grounded
  have hstays : grown.walk (grown.start root) (ascent root) = .ok place := by
    rw [hgrows.start_eq]
    exact hgrows.walk hplace
  refine ⟨⟨place, hstays⟩, fun hpassable base hbase name location hfind hbelow => ?_⟩
  rw [hstays] at hbase
  injection hbase with hbase
  subst hbase
  cases hold : files.find? (name :: location) with
  | some entry =>
      exact h.short hpassable base hplace name location (by rw [hold]; exact Option.some_ne_none entry)
        hbelow
  | none =>
      obtain ⟨entry, hentry⟩ := Option.ne_none_iff_exists'.mp hfind
      exact hmade base hplace name location (hgrows.new _ entry hold hentry).1 hold hbelow

end FileSystem

namespace Repository

open FileSystem (ascent foot)

variable {repository : Repository} {files : FileSystem} {name : Word} {crossPrefix : String}
  {client : Client}

/-- What a cold start is: a root that is no directory yet, in a tree.  The root is not the empty path, and
    where it leads up, it leads up from what is there. -/
structure Cold (repository : Repository) (files : FileSystem) : Prop where
  root_ne_nil : repository.root ≠ []
  grounded : ∃ place, files.walk (files.start repository.root) (ascent repository.root) = .ok place
  absent : files.isDirectory repository.root = false
  tree : files.IsTree

/-- The file of an artifact is looked for from where the root is. -/
theorem start_fileOf (hroot : repository.root ≠ []) :
    files.start (repository.fileOf (Artifact.path name crossPrefix client))
      = files.start repository.root := by
  rw [fileOf, FileSystem.start,
    Path.isAbsolute_join hroot (Artifact.solid_path name crossPrefix client).2]
  rfl

/-- The file of a flat client's artifact has the names of the root, the shards, and one name more. -/
theorem solid_fileOf (hflat : client.IsFlat) :
    Path.solid (repository.fileOf (Artifact.path name crossPrefix client))
      = Path.solid repository.root ++ Artifact.shards name crossPrefix client
        ++ [Artifact.fileName name crossPrefix client] := by
  obtain ⟨hsolid, hrelative⟩ := Artifact.solid_path name crossPrefix client
  rw [fileOf, Path.solid_join hrelative, hsolid, Artifact.solid_fileName_of_isFlat hflat,
    List.append_assoc]

/-- What is made below the root on the way to a flat client's artifact is shards. -/
theorem length_of_onTheWay (hroot : repository.root ≠ []) (hflat : client.IsFlat) {directory : Path}
    (hparent : (repository.fileOf (Artifact.path name crossPrefix client)).parent? = some directory)
    {base location : Location} {last : Bytes} (hway : files.OnTheWay directory (last :: location))
    (hground : files.walk (files.start repository.root) (ascent repository.root) = .ok (.entry base))
    (hnone : files.find? (last :: location) = none) (hbelow : foot repository.root base <:+ location) :
    last.length = 2 := by
  obtain ⟨hsolid, habsolute⟩ := Path.solid_of_parent? hparent
  rw [solid_fileOf hflat, List.dropLast_concat] at hsolid
  have hstart : files.start directory = files.start repository.root := by
    rw [FileSystem.start, habsolute, ← start_fileOf hroot]
    rfl
  have hshard := hway.mem_of_below_foot hsolid Artifact.up_not_mem_shards hstart hground hnone hbelow
  exact (Artifact.length_of_mem_shards hshard).1

/-- Nothing is made below the root on the way to it. -/
theorem not_below_foot_of_absoluteRoot (hstanding : files.Standing) {root : Path}
    (habsolute : repository.absoluteRoot files = .ok root) {base location : Location} {last : Bytes}
    (hway : files.OnTheWay root (last :: location))
    (hground : files.walk (files.start repository.root) (ascent repository.root) = .ok (.entry base))
    (hnone : files.find? (last :: location) = none) : ¬ foot repository.root base <:+ location := by
  intro hbelow
  rcases onTheWay_of_absoluteRoot hstanding habsolute hway with ⟨hadrift, habove⟩ | hway
  · -- what lies above the working directory is there
    exact hstanding.stands hadrift _ habove hnone
  · have hmem := hway.mem_of_below_foot (List.append_nil _).symm List.not_mem_nil rfl hground hnone hbelow
    cases hmem

/-- **In a barren repository nothing lies in the place of a flat client's artifact.** -/
theorem stat_fileOf_ne_ok (hroot : repository.root ≠ []) (hflat : client.IsFlat)
    (hbarren : files.Barren repository.root) (found : Entry) :
    files.stat (repository.fileOf (Artifact.path name crossPrefix client)) ≠ .ok found := by
  intro hstat
  obtain ⟨place, hground⟩ := hbarren.grounded
  have hsolid : Path.solid (repository.fileOf (Artifact.path name crossPrefix client))
      = Path.solid repository.root
        ++ (Artifact.shards name crossPrefix client ++ [Artifact.fileName name crossPrefix client]) := by
    rw [solid_fileOf hflat, List.append_assoc]
  have hup : Path.up
      ∉ Artifact.shards name crossPrefix client ++ [Artifact.fileName name crossPrefix client] := by
    rw [List.mem_append, List.mem_singleton, not_or]
    exact ⟨Artifact.up_not_mem_shards, Artifact.up_ne_fileName⟩
  obtain ⟨base, rfl, hfile⟩ :=
    FileSystem.exists_of_stat_append hsolid hup (start_fileOf hroot) hground hstat
  -- what lies there has the name of a file, and that is too long for what is below the root
  have hpassable := (FileSystem.passable_of_stat hstat).of_join hroot
    (Artifact.solid_path name crossPrefix client).2
  have hshort := hbarren.short hpassable base hground _ _
    (by rw [hfile]; exact Option.some_ne_none found) (List.suffix_append _ _)
  have hlong : 64 < (Artifact.fileName name crossPrefix client).length := Artifact.length_fileName
  omega

end Repository

/-! ## Sessions -/

namespace Session

variable {σ : Type} {mapper : Mapper σ} {s : Session σ} {message : Message}

/-- A session that has put nothing where an artifact could belong, and does not for the client that it
    serves. -/
structure Unspoilt (mapper : Mapper σ) (s : Session σ) : Prop where
  barren : s.workspace.files.Barren mapper.repository.root
  standing : s.workspace.files.Standing
  flat : s.phase = .ready → s.client.IsFlat

/-- A session that waits for a handshake, in front of a cold repository. -/
theorem unspoilt_of_cold (hstart : s.phase = .awaitingHandshake)
    (hcold : mapper.repository.Cold s.workspace.files) : s.Unspoilt mapper where
  barren := FileSystem.barren_of_isDirectory hcold.tree hcold.grounded hcold.absent
  standing := hcold.tree.standing
  flat := fun hready => by
    rw [hstart] at hready
    cases hready

/-- Only a handshake puts a session in the service of another client. -/
theorem flat_answer (mapper : Mapper σ)
    (hflat : ∀ client, message.client? = some client → client.IsFlat)
    (h : s.phase = .ready → s.client.IsFlat) :
    (answer mapper message s).2.phase = .ready → (answer mapper message s).2.client.IsFlat := by
  intro hready
  rw [client_answer]
  cases hclient : message.client? with
  | some client => exact hflat client hclient
  | none =>
      rw [phase_answer_of_not_isGreeting (Message.isGreeting_of_client?_eq_none hclient)] at hready
      exact h hready

/-- Preparing the artifact of a flat client keeps the repository barren. -/
theorem Unspoilt.barren_prepare (h : s.Unspoilt mapper) (hroot : mapper.repository.root ≠ [])
    (hready : s.phase = .ready) {grown : FileSystem} {name : Word}
    (hgrows : s.workspace.files.Grows grown fun location => ∃ directory,
      (mapper.repository.fileOf
          (Artifact.path name mapper.settings.crossPrefix s.client)).parent? = some directory
        ∧ s.workspace.files.OnTheWay directory location) :
    grown.Barren mapper.repository.root := by
  refine h.barren.grows hgrows ?_
  rintro base hground last location ⟨directory, hparent, hway⟩ hnone hbelow
  exact Repository.length_of_onTheWay hroot (h.flat hready) hparent hway hground hnone hbelow

/-- **Answering a message leaves a session unspoilt**, unless it puts it in the service of a client that
    is not flat. -/
theorem unspoilt_answer (hinert : mapper.compiler.Inert) (hroot : mapper.repository.root ≠ [])
    (hflat : ∀ client, message.client? = some client → client.IsFlat) (h : s.Unspoilt mapper) :
    (answer mapper message s).2.Unspoilt mapper := by
  have hnext := flat_answer mapper hflat h.flat
  rcases workspace_answer_cases mapper message s with hsame | ⟨-, -, hprovided⟩
    | ⟨name, hready, -, himported⟩
  · refine ⟨?_, ?_, hnext⟩
    · rw [hsame]
      exact h.barren
    · rw [hsame]
      exact h.standing
  · have hgrows := mapper.repository.grows_provideRoot s.workspace.files
    refine ⟨?_, ?_, hnext⟩
    · rw [hprovided]
      refine h.barren.grows hgrows ?_
      rintro base hground last location ⟨root, habsolute, hway⟩ hnone hbelow
      exact absurd hbelow
        (Repository.not_below_foot_of_absoluteRoot h.standing habsolute hway hground hnone)
    · rw [hprovided]
      exact hgrows.standing h.standing
  · have hgrows := Mapper.grows_importModule hinert s.client name s.workspace
    refine ⟨?_, ?_, hnext⟩
    · rw [himported]
      exact h.barren_prepare hroot hready hgrows
    · rw [himported]
      exact hgrows.standing h.standing

/-- An import of an unspoilt session compiles, if it is answered with a path. -/
theorem journal_answer (hroot : mapper.repository.root ≠ []) (h : s.Unspoilt mapper) {name : Word}
    (himport : Request.ofMessage? message = some (.moduleImport name)) {path : Path}
    (hanswer : (answer mapper message s).1 = .ok (.pathName path)) :
    (answer mapper message s).2.workspace.journal
      = s.workspace.journal ++ [⟨Text.lossy name, mapper.invocationOf name, none⟩] := by
  obtain ⟨hready, hsucceeds, hworkspace⟩ := importModule_of_answer himport hanswer
  have hpath := Mapper.eq_path_of_pathOf (Mapper.pathOf_of_importModule hsucceeds)
  rw [hworkspace]
  refine Mapper.journal_importModule hsucceeds ?_
  subst hpath
  exact Repository.stat_fileOf_ne_ok hroot (h.flat hready)
    (h.barren_prepare hroot hready (mapper.repository.grows_prepare _ _))

end Session

/-- **A session stays unspoilt as long as its clients are flat.**  Induction on the events. -/
theorem Event.unspoilt_of_follow {σ : Type} {mapper : Mapper σ} {s t : Session σ}
    {events : List (Event σ)} (hinert : mapper.compiler.Inert) (hroot : mapper.repository.root ≠ [])
    (hfollow : Follow mapper s events t)
    (hflat : ∀ client ∈ events.filterMap Event.client?, client.IsFlat) (h : s.Unspoilt mapper) :
    t.Unspoilt mapper := by
  induction hfollow with
  | nil s => exact h
  | @handled message s t events _ ih =>
      refine ih (fun client hmem => hflat client ?_) ?_
      · obtain ⟨event, hevent, hclient⟩ := List.mem_filterMap.mp hmem
        exact List.mem_filterMap.mpr ⟨event, List.mem_cons_of_mem _ hevent, hclient⟩
      · refine Session.unspoilt_answer hinert hroot (fun client hclient => hflat client ?_) h
        exact List.mem_filterMap.mpr ⟨.handled message s _, List.mem_cons_self, hclient⟩
  | @returned phase s t events hend _ ih =>
      refine ih (fun client hmem => hflat client ?_) ⟨h.barren, h.standing, ?_⟩
      · obtain ⟨event, hevent, hclient⟩ := List.mem_filterMap.mp hmem
        exact List.mem_filterMap.mpr ⟨event, List.mem_cons_of_mem _ hevent, hclient⟩
      · -- a run that is over leaves no session ready
        rintro rfl
        rcases hend with heq | heq
        · cases heq
        · cases heq

namespace Connection

variable {σ ω : Type} [Sink ω] (mapper : Mapper σ) (c : Connection σ ω)

/-- **From a cold start, an import that is answered with a path has compiled.**  Whatever is called on a
    connection that starts by waiting for a handshake, in front of a repository that is not there, with a
    compiler that leaves the files alone: when the import of a module is answered with a path, and every
    client that was announced before is flat, then one compilation was done while the import was handled,
    and it was of this module and succeeded. -/
theorem compiled_of_import (hinert : mapper.compiler.Inert)
    (hstart : c.session.phase = .awaitingHandshake)
    (hcold : mapper.repository.Cold c.session.workspace.files) (calls : List Call) :
    ∀ earlier message before after later,
      history mapper calls c = earlier ++ .handled message before after :: later →
      (∀ client ∈ earlier.filterMap Event.client?, client.IsFlat) →
      ∀ name, Request.ofMessage? message = some (.moduleImport name) →
      ∀ path, Event.response? mapper (.handled message before after) = some (.pathName path) →
        after.workspace.journal
          = before.workspace.journal ++ [⟨Text.lossy name, mapper.invocationOf name, none⟩] := by
  intro earlier message before after later hhistory hflat name himport path hresponse
  have hfollow := follow_history mapper calls c
  rw [hhistory] at hfollow
  obtain ⟨between, hearlier, hlater⟩ := Event.follow_append.mp hfollow
  have hunspoilt := Event.unspoilt_of_follow hinert hcold.root_ne_nil hearlier hflat
    (Session.unspoilt_of_cold hstart hcold)
  cases hlater with
  | handled _ =>
      exact Session.journal_answer hcold.root_ne_nil hunspoilt himport
        (Event.answer_of_response? hresponse)

/-- Files with one source, which is older than whatever is made now. -/
def sourceFiles : FileSystem where
  entries := [([], .directory ⟨0, 0⟩), ([Bytes.ofString "foo.cpp"], .file [] ⟨1, 0⟩ false)]
  workingDir := []
  now := ⟨2, 0⟩

theorem cold_sourceFiles : Mapper.idle.repository.Cold sourceFiles where
  root_ne_nil := by decide
  grounded := ⟨.entry [], rfl⟩
  absent := by decide +kernel
  tree := {
    above := by decide +kernel
    names := List.forall_mem_nil _
    stands := fun _ => rfl }

/-- The handshake of a client. -/
def greeting (client : Client) : Message :=
  [Bytes.ofString "HELLO", Bytes.ofString "1", client.compiler, client.build]

/-- The import of the source. -/
def importFoo : Message := [Bytes.ofString "MODULE-IMPORT", Bytes.ofString "foo"]

/-- Two clients that import the source, one after the other. -/
def asking (first second : Client) : Connection Unit where
  reader := { stream := {
    rest := [[greeting first], [importFoo], [greeting second], [importFoo]].flatMap Block.encode } }
  session := { workspace := { files := sourceFiles, compilerState := () } }

/-- The session of two such clients, in front of the second import and behind it. -/
def atSecondImport (first second : Client) : Session Unit :=
  (Session.answerAll Mapper.idle [greeting first, importFoo, greeting second]
    (asking first second).session).2

def behindSecondImport (first second : Client) : Session Unit :=
  (Session.answer Mapper.idle importFoo (atSecondImport first second)).2

/-- A flat client with a build identity, and one without. -/
def plainClient : Client := { compiler := Bytes.ofString "c", build := Bytes.ofString "b" }

def shardedClient : Client := { compiler := Bytes.ofString "z" }

/-- For a flat client behind another one the source is compiled. -/
theorem compiled_of_import_plainClient :
    Mapper.idle.compiler.Inert
      ∧ (asking shardedClient plainClient).session.phase = .awaitingHandshake
      ∧ Mapper.idle.repository.Cold (asking shardedClient plainClient).session.workspace.files
      ∧ (∃ earlier later, history Mapper.idle [.run] (asking shardedClient plainClient)
          = earlier ++ .handled importFoo (atSecondImport shardedClient plainClient)
            (behindSecondImport shardedClient plainClient) :: later)
      ∧ (behindSecondImport shardedClient plainClient).workspace.journal
        = (atSecondImport shardedClient plainClient).workspace.journal
          ++ [⟨Text.lossy (Bytes.ofString "foo"), Mapper.idle.invocationOf (Bytes.ofString "foo"),
            none⟩] := by
  have hhistory : history Mapper.idle [.run] (asking shardedClient plainClient)
      = (history Mapper.idle [.run] (asking shardedClient plainClient)).take 3
        ++ .handled importFoo (atSecondImport shardedClient plainClient)
          (behindSecondImport shardedClient plainClient)
        :: (history Mapper.idle [.run] (asking shardedClient plainClient)).drop 4 := by
    decide +kernel
  have hresponse : Event.response? Mapper.idle (.handled importFoo
      (atSecondImport shardedClient plainClient) (behindSecondImport shardedClient plainClient))
      = some (.pathName (Bytes.ofString
        "2c26b46b68ffc68ff99b453c1d30413413422d706483bfa0f98a5e886266e7ae-b-c")) := by
    decide +kernel
  have hjournal := compiled_of_import Mapper.idle (asking shardedClient plainClient)
    Mapper.inert_idle rfl cold_sourceFiles [.run] _ _ _ _ _ hhistory (by decide +kernel)
    (Bytes.ofString "foo") (by decide +kernel) _ hresponse
  exact ⟨Mapper.inert_idle, rfl, cold_sourceFiles, ⟨_, _, hhistory⟩, hjournal⟩

/-- A client whose build leads into a directory, where its compiler is the name of a file. -/
def nestingClient : Client := { compiler := Bytes.ofString "z", build := Bytes.ofString "b-c/y" }

/-- **A client that is not flat spoils the repository** for a flat one behind it.  The directory that is
    made for the first one's artifact is taken for the second one's artifact, and nothing is compiled. -/
theorem not_compiled_of_import :
    Mapper.idle.compiler.Inert
      ∧ (asking nestingClient plainClient).session.phase = .awaitingHandshake
      ∧ Mapper.idle.repository.Cold (asking nestingClient plainClient).session.workspace.files
      ∧ (∃ earlier later, history Mapper.idle [.run] (asking nestingClient plainClient)
          = earlier ++ .handled importFoo (atSecondImport nestingClient plainClient)
            (behindSecondImport nestingClient plainClient) :: later)
      ∧ Event.response? Mapper.idle (.handled importFoo (atSecondImport nestingClient plainClient)
            (behindSecondImport nestingClient plainClient))
        = some (.pathName (Bytes.ofString
          "2c26b46b68ffc68ff99b453c1d30413413422d706483bfa0f98a5e886266e7ae-b-c"))
      ∧ (behindSecondImport nestingClient plainClient).workspace.journal
        = (atSecondImport nestingClient plainClient).workspace.journal := by
  have hhistory : history Mapper.idle [.run] (asking nestingClient plainClient)
      = (history Mapper.idle [.run] (asking nestingClient plainClient)).take 3
        ++ .handled importFoo (atSecondImport nestingClient plainClient)
          (behindSecondImport nestingClient plainClient)
        :: (history Mapper.idle [.run] (asking nestingClient plainClient)).drop 4 := by
    decide +kernel
  exact ⟨Mapper.inert_idle, rfl, cold_sourceFiles, ⟨_, _, hhistory⟩, by decide +kernel,
    by decide +kernel⟩

end Connection

end ModuleMapper
