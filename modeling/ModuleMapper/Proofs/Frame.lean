import ModuleMapper.Proofs.ColdCache
import ModuleMapper.Proofs.Rebuilding

/-!
# Frame — what a session leaves as it is

  With a compiler that leaves the files alone, a session takes nothing away and makes nothing but
  directories: those on the way to the root of the repository, when a ready session is asked for it, and
  those above an artifact, when a ready session imports it (`Session.Makes`).  Any other message leaves the
  workspace as it is, whether it gets an answer or not (`Session.workspace_answer_of_not_touches`).

  So the files only grow from message to message (`Session.grows_answer`), and hence from the first event
  of a history to the last, by directories that one of its events has made (`Event.grows_of_follow`).
-/

namespace ModuleMapper

namespace FileSystem

variable {files grown : FileSystem} {made : Location → Prop}

/-- What is made was missing before and is there afterwards. -/
theorem Grows.missing (h : Grows files grown made) :
    Grows files grown fun location =>
      made location ∧ files.find? location = none ∧ grown.find? location ≠ none :=
  { h with new := fun location entry hnone hentry =>
      have hsome : grown.find? location ≠ none := by
        rw [hentry]
        exact Option.some_ne_none entry
      ⟨⟨(h.new location entry hnone hentry).1, hnone, hsome⟩, (h.new location entry hnone hentry).2⟩ }

/-- Files are kept with all that they hold, and directories stay directories. -/
structure Keeps (files grown : FileSystem) : Prop where
  file : ∀ location content modified executable,
    files.find? location = some (.file content modified executable) →
      grown.find? location = some (.file content modified executable)
  directory : ∀ location time, files.find? location = some (.directory time) →
    ∃ later, grown.find? location = some (.directory later)

theorem Grows.keeps (h : Grows files grown made) : files.Keeps grown where
  file := by
    intro location content modified executable hfile
    obtain ⟨left, hleft, rfl | ⟨hdirectory, -⟩⟩ := h.kept location _ hfile
    · exact hleft
    · cases hdirectory
  directory := fun _ _ hdirectory => h.directory hdirectory

end FileSystem

/-! ## Messages -/

namespace Session

variable {σ : Type} {mapper : Mapper σ} {s : Session σ} {message : Message}

/-- A message can change the workspace: in a ready session, it asks for the repository, or imports a name
    that a file can have. -/
def Touches (s : Session σ) (message : Message) : Prop :=
  s.phase = .ready ∧ (Request.ofMessage? message = some .repository
    ∨ ∃ name, Request.ofMessage? message = some (.moduleImport name) ∧ Byte.nul ∉ name)

/-- The directories that a message can make: those on the way to the root, and those on the way to the
    directory of an artifact. -/
inductive Makes (mapper : Mapper σ) (s : Session σ) (message : Message) (location : Location) : Prop
  | root {root : Path} : s.phase = .ready → Request.ofMessage? message = some .repository →
      mapper.repository.absoluteRoot s.workspace.files = .ok root →
      s.workspace.files.OnTheWay root location → Makes mapper s message location
  | artifact {name : Word} {directory : Path} : s.phase = .ready →
      Request.ofMessage? message = some (.moduleImport name) → Byte.nul ∉ name →
      (mapper.fileFor s.client name).parent? = some directory →
      s.workspace.files.OnTheWay directory location → Makes mapper s message location

/-- **Other messages change nothing in the workspace**, and nothing at all unless they announce a client. -/
theorem workspace_answer_of_not_touches (mapper : Mapper σ) (h : ¬ s.Touches message) :
    (answer mapper message s).2.workspace = s.workspace
      ∧ (message.client? = none → (answer mapper message s).2 = s) := by
  cases hclient : message.client? with
  | some client =>
      rw [answer_of_client? hclient]
      refine ⟨rfl, fun hnone => ?_⟩
      cases hnone
  | none =>
      have hsame : (answer mapper message s).2 = s := by
        rcases answer_cases mapper s hclient with hsame | ⟨hready, hrequest, -⟩
          | ⟨name, hready, hrequest, himported⟩
        · exact hsame
        · exact absurd ⟨hready, Or.inl hrequest⟩ h
        · by_cases hname : Byte.nul ∈ name
          · -- the import is refused before anything is looked at
            rw [himported, Mapper.importModule_of_pathOf (Mapper.pathOf_of_mem hname)]
          · exact absurd ⟨hready, Or.inr ⟨name, hrequest, hname⟩⟩ h
      exact ⟨congrArg workspace hsame, fun _ => hsame⟩

/-- **A message makes the files grow**, by the directories that it can make. -/
theorem grows_answer (hinert : mapper.compiler.Inert) (message : Message) (s : Session σ) :
    s.workspace.files.Grows (answer mapper message s).2.workspace.files (Makes mapper s message) := by
  by_cases htouches : s.Touches message
  · rcases workspace_answer_cases mapper message s with hsame | ⟨hready, hrequest, hprovided⟩
      | ⟨name, hready, hrequest, himported⟩
    · rw [hsame]
      exact .refl _
    · rw [hprovided]
      refine (mapper.repository.grows_provideRoot s.workspace.files).mono ?_
      rintro location ⟨root, habsolute, hway⟩
      exact .root hready hrequest habsolute hway
    · rw [himported]
      refine (Mapper.grows_importModule hinert s.client name s.workspace).mono ?_
      rintro location ⟨directory, hparent, hway⟩
      refine .artifact hready hrequest ?_ hparent hway
      rcases htouches.2 with hrepository | ⟨other, hother, hname⟩
      · rw [hrequest] at hrepository
        cases hrepository
      · rw [hrequest] at hother
        injection hother with hother
        injection hother with hother
        rw [hother]
        exact hname
  · rw [(workspace_answer_of_not_touches mapper htouches).1]
    exact .refl _

end Session

/-! ## Events -/

namespace Event

variable {σ : Type} {mapper : Mapper σ} {s t : Session σ} {events : List (Event σ)}

/-- An event can change the workspace if it is a message that can. -/
def Touches : Event σ → Prop
  | handled message before _ => before.Touches message
  | returned .. => False

/-- One of some events is a message that has made a directory. -/
def Made (mapper : Mapper σ) (events : List (Event σ)) (location : Location) : Prop :=
  ∃ message before after, .handled message before after ∈ events
    ∧ Session.Makes mapper before message location
    ∧ before.workspace.files.find? location = none ∧ after.workspace.files.find? location ≠ none

theorem Made.cons {location : Location} (event : Event σ) (h : Made mapper events location) :
    Made mapper (event :: events) location := by
  obtain ⟨message, before, after, hmem, hmakes⟩ := h
  exact ⟨message, before, after, List.mem_cons_of_mem _ hmem, hmakes⟩

/-- **From event to event the files grow**, by the directories that the events have made.  Induction on the
    events. -/
theorem grows_of_follow (hinert : mapper.compiler.Inert) (h : Follow mapper s events t) :
    s.workspace.files.Grows t.workspace.files (Made mapper events) := by
  induction h with
  | nil s => exact .refl _
  | @handled message s t events _ ih =>
      have hfirst := (Session.grows_answer hinert message s).missing.mono fun location hmakes =>
        (⟨message, s, _, List.mem_cons_self, hmakes⟩ : Made mapper
          (.handled message s (Session.answer mapper message s).2 :: events) location)
      exact hfirst.trans (ih.mono fun _ => Made.cons _)
  | returned _ _ ih => exact ih.mono fun _ => Made.cons _

/-- An event that cannot change the workspace leaves it as it is. -/
theorem workspace_of_not_touches (h : Follow mapper s events t) {event : Event σ} (hmem : event ∈ events)
    (hevent : ¬ event.Touches) : event.after.workspace = event.before.workspace := by
  induction h with
  | nil => cases hmem
  | handled _ ih =>
      rcases List.mem_cons.mp hmem with rfl | hlater
      · exact (Session.workspace_answer_of_not_touches mapper hevent).1
      · exact ih hlater
  | returned _ _ ih =>
      rcases List.mem_cons.mp hmem with rfl | hlater
      · rfl
      · exact ih hlater

end Event

namespace Connection

variable {σ ω : Type} [Sink ω] (mapper : Mapper σ) (c : Connection σ ω)

/-- **The frame of a session.**  Whatever is called on a connection, and whatever the client sends: a
    compiler that leaves the files alone lets the session keep every file as it was and every directory.
    What is new is a directory, and a message in the history of the calls has made it, on the way to the
    root or to the directory of an artifact.  And every event of the history that is not such a message
    leaves the workspace as it is. -/
theorem session_frame (hinert : mapper.compiler.Inert) (calls : List Call) :
    c.session.workspace.files.Keeps (performAll mapper calls c).session.workspace.files
      ∧ (∀ location entry, c.session.workspace.files.find? location = none →
          (performAll mapper calls c).session.workspace.files.find? location = some entry →
            entry.isDirectory = true ∧ Event.Made mapper (history mapper calls c) location)
      ∧ ∀ event ∈ history mapper calls c, ¬ event.Touches →
          event.after.workspace = event.before.workspace := by
  have hfollow := follow_history mapper calls c
  have hgrows := Event.grows_of_follow hinert hfollow
  refine ⟨hgrows.keeps, ?_, fun event hmem hevent => Event.workspace_of_not_touches hfollow hmem hevent⟩
  intro location entry hnone hentry
  obtain ⟨hmade, hdirectory⟩ := hgrows.new location entry hnone hentry
  rw [hdirectory]
  exact ⟨rfl, hmade⟩

/-- The directory that the artifact of the source lies in, for a client without a build identity. -/
def fooShard : Location := [Bytes.ofString "26", Bytes.ofString "2c", Bytes.ofString ".modules-cmi"]

/-- Two clients leave the source as it was, and a message of theirs has made the directory of an
    artifact. -/
theorem session_frame_asking :
    Mapper.idle.compiler.Inert
      ∧ sourceFiles.find? fooShard = none
      ∧ (performAll Mapper.idle [.run]
          (asking shardedClient plainClient)).session.workspace.files.find? fooShard
        = some (.directory ⟨2, 0⟩)
      ∧ (performAll Mapper.idle [.run]
          (asking shardedClient plainClient)).session.workspace.files.find? [Bytes.ofString "foo.cpp"]
        = some (.file [] ⟨1, 0⟩ false)
      ∧ Event.Made Mapper.idle (history Mapper.idle [.run] (asking shardedClient plainClient))
        fooShard := by
  have hnew : (performAll Mapper.idle [.run]
      (asking shardedClient plainClient)).session.workspace.files.find? fooShard
        = some (.directory ⟨2, 0⟩) := by
    decide +kernel
  obtain ⟨hkeeps, hmade, -⟩ :=
    session_frame Mapper.idle (asking shardedClient plainClient) Mapper.inert_idle [.run]
  exact ⟨Mapper.inert_idle, by decide, hnew, hkeeps.file _ [] ⟨1, 0⟩ false (by decide),
    (hmade fooShard _ (by decide) hnew).2⟩

end Connection

end ModuleMapper
