import ModuleMapper.Proofs.Inheritance
import ModuleMapper.Proofs.Iterating

/-!
# Showing — what is served is what can be shown

  The program can also just show its input, block by block, and it does so however it was configured
  (`CommandLine.parse_showing`).  It goes through the blocks as an iteration does, which stops at the end
  of the stream or at the first failure (`Reader.iterates_blocks`).

  Serving goes through the same blocks in another way, and answers each of them.  Nothing that comes of an
  answer ends it but a message without words, so it succeeds for the same inputs, if there is no such
  message in them (`serves_as_shown`).
-/

namespace ModuleMapper

open Wire

/-! ## Iterations -/

namespace Wire.Reader

variable {r : Reader}

/-- What a loop over the iteration of a reader goes through: blocks, and perhaps a failure that ends it. -/
inductive Iterates : Reader → List Block → Option Failure → Prop
  | done {r : Reader} : r.iterate.1 = none → Iterates r [] none
  | failed {r : Reader} {failure : Failure} : r.iterate.1 = some (.error failure) →
      Iterates r [] (some failure)
  | block {r : Reader} {block : Block} {others : List Block} {failure : Option Failure} :
      r.iterate.1 = some (.ok block) → Iterates r.iterate.2 others failure →
      Iterates r (block :: others) failure

/-- **An iteration goes through the blocks of the reader**, unless it has finished already.  Induction on
    the blocks. -/
theorem iterates_blocks (h : r.finished = false) : Iterates r r.blocks.1 r.blocks.2.1 := by
  induction r using Reader.blocks.induct with
  | case1 r failure hblock =>
      rw [blocks_of_error hblock]
      exact .failed (congrArg Prod.fst (iterate_of_error h hblock))
  | case2 r hblock =>
      rw [blocks_of_end hblock]
      exact .done (congrArg Prod.fst (iterate_of_end h hblock))
  | case3 r block hblock hne _ _ _ _ ih =>
      have hiterate := iterate_of_block h hblock hne
      rw [blocks_of_block hblock hne]
      refine .block (congrArg Prod.fst hiterate) ?_
      rw [hiterate]
      exact ih ((finished_readBlock r).trans h)

theorem trouble?_eq_none_iff : r.trouble? = none
    ↔ r.blocks.2.1 = none ∧ ∀ block ∈ r.blocks.1, ∀ message ∈ block, message ≠ [] := by
  have hwordy : r.blocks.1.all Block.isWordy = true
      ↔ ∀ block ∈ r.blocks.1, ∀ message ∈ block, message ≠ [] := by
    rw [List.all_eq_true]
    exact forall₂_congr fun _ _ => Block.isWordy_iff
  rw [trouble?, ← hwordy]
  split
  · next hall => exact (and_iff_left hall).symm
  · next hall =>
      constructor
      · intro hnone
        cases hnone
      · exact fun hboth => absurd hboth.2 hall

end Wire.Reader

/-! ## Command lines that ask to show -/

namespace CommandLine

variable {p after : Progress} {options : Options} {arguments : List Bytes}
  {environment : List (String × Bytes)}

/-- The same, with the option that asks to show. -/
def Options.showing (options : Options) : Options := { options with dumpBlocks := true }

def Progress.showing (p : Progress) : Progress := { p with options := p.options.showing }

/-- The same step, with the option that asks to show. -/
def Step.showing : Step → Step
  | more p => more p.showing
  | stop order => stop order

section Steps

variable (p)

/-- A value is taken over in the same way. -/
theorem Progress.accept_showing (setting : Setting) (value : Bytes) :
    p.showing.accept setting value = (p.accept setting value).showing := by
  have hgiven : p.showing.options.given = p.options.given := rfl
  have hsettings : p.showing.options.settings = p.options.settings := rfl
  rw [accept, accept, hgiven, hsettings]
  split
  · rfl
  · cases p.options.settings.assign? setting value with
    | none => rfl
    | some settings => rfl

theorem Progress.takeNamed_showing (name : Bytes) (value : Option Bytes) :
    p.showing.takeNamed name value = (p.takeNamed name value).showing
      ∨ ∃ after, p.takeNamed name value = .more after ∧ after.options.dumpBlocks = true := by
  cases hsetting : Setting.all.find? fun setting => name == Bytes.ofString (optionName setting) with
  | some setting =>
      refine Or.inl ?_
      cases value with
      | some value =>
          simp only [takeNamed, hsetting]
          exact p.accept_showing setting value
      | none =>
          simp only [takeNamed, hsetting]
          rfl
  | none =>
      cases value with
      | some value =>
          refine Or.inl ?_
          simp only [takeNamed, hsetting]
          rfl
      | none =>
          simp only [takeNamed, hsetting]
          by_cases hname : name = Bytes.ofString "dump-blocks"
          · rw [if_pos hname, if_pos hname]
            cases hdump : p.options.dumpBlocks with
            | true => exact Or.inl rfl
            | false => exact Or.inr ⟨_, rfl, rfl⟩
          · refine Or.inl ?_
            rw [if_neg hname, if_neg hname]
            split
            · rfl
            · split
              · rfl
              · rfl

theorem Progress.takeLetter_showing (letter : UInt8) (rest : Bytes) :
    p.showing.takeLetter letter rest = (p.takeLetter letter rest).showing := by
  simp only [takeLetter]
  split
  · rfl
  · exact p.accept_showing _ _
  · split
    · rfl
    · split
      · rfl
      · rfl

/-- An argument leads to the same, unless it is the option that asks to show. -/
theorem Progress.step_showing (argument : Bytes) :
    p.showing.step argument = (p.step argument).showing
      ∨ ∃ after, p.step argument = .more after ∧ after.options.dumpBlocks = true := by
  have hwaiting : p.showing.waiting = p.waiting := rfl
  have hclosed : p.showing.closed = p.closed := rfl
  rw [step, step, hwaiting, hclosed]
  cases p.waiting with
  | some setting =>
      refine Or.inl ?_
      simp only
      split
      · rfl
      · exact p.accept_showing setting argument
  | none =>
      simp only
      split
      · exact Or.inl rfl
      · split
        · exact Or.inl rfl
        · split
          · split
            · exact Or.inl rfl
            · exact p.takeNamed_showing _ _
          · exact Or.inl (p.takeLetter_showing _ _)

end Steps

/-- Who has asked to show keeps asking. -/
theorem dumpBlocks_of_step {argument : Bytes} (hstep : p.step argument = .more after)
    (h : p.options.dumpBlocks = true) : after.options.dumpBlocks = true := by
  have hsame : p.showing = p := by
    obtain ⟨⟨settings, given, dumpBlocks⟩, waiting, closed⟩ := p
    cases h
    rfl
  rcases p.step_showing argument with hshowing | ⟨other, hother, hdump⟩
  · rw [hsame, hstep] at hshowing
    injection hshowing with hafter
    rw [hafter]
    rfl
  · rw [hstep] at hother
    injection hother with hafter
    rw [hafter]
    exact hdump

theorem dumpBlocks_of_read (hread : read p arguments = .work options)
    (h : p.options.dumpBlocks = true) : options.dumpBlocks = true := by
  induction arguments generalizing p with
  | nil =>
      rw [read] at hread
      split at hread
      · cases hread
      · injection hread with hoptions
        rw [← hoptions]
        exact h
  | cons argument others ih =>
      rw [read] at hread
      split at hread
      · next hstep => exact ih hread (dumpBlocks_of_step hstep h)
      · next hstep => exact absurd hread (p.ne_work_of_stop hstep options)

/-- **Arguments are read in the same way behind the option that asks to show.**  Induction on the
    arguments. -/
theorem read_showing (hread : read p arguments = .work options) (hdump : options.dumpBlocks = false) :
    read p.showing arguments = .work options.showing := by
  induction arguments generalizing p with
  | nil =>
      rw [read] at hread ⊢
      split at hread
      · cases hread
      · next hwaiting =>
          injection hread with hoptions
          rw [← hoptions]
          exact if_neg hwaiting
  | cons argument others ih =>
      rw [read] at hread
      split at hread
      · next hstep =>
          rcases p.step_showing argument with hshowing | ⟨other, hother, hasks⟩
          · rw [hstep] at hshowing
            rw [read, hshowing]
            exact ih hread
          · -- an argument that asks to show is none of a command line that asks to serve
            rw [hstep] at hother
            injection hother with hafter
            rw [hafter] at hread
            rw [dumpBlocks_of_read hread hasks] at hdump
            cases hdump
      · next hstep => exact absurd hread (p.ne_work_of_stop hstep options)

/-- The option that asks to show. -/
def showOption : Bytes := Bytes.ofString "--dump-blocks"

/-- **What can be served can be shown**: a command line that asks to serve asks to show, with the same
    settings, if the option for it is put in front. -/
theorem parse_showing (hparse : parse arguments environment = .work options)
    (hdump : options.dumpBlocks = false) :
    parse (showOption :: arguments) environment = .work options.showing := by
  have hfirst : ∀ p : Progress, p = {} → p.step showOption = .more p.showing := by
    rintro p rfl
    decide
  have hread : ∀ given : Options, read {} arguments = .work given → given.dumpBlocks = false →
      read {} (showOption :: arguments) = .work given.showing := by
    intro given hgiven hserves
    rw [read, hfirst {} rfl]
    exact read_showing hgiven hserves
  rw [parse] at hparse ⊢
  split at hparse
  · next given hgiven =>
      split at hparse
      · next settings hsettings =>
          injection hparse with hoptions
          rw [← hoptions] at hdump ⊢
          -- variables are looked at for what no option gave, and that is the same
          have hvariables : fromVariables environment given.showing = some settings := hsettings
          rw [hread given hgiven hdump]
          simp only [hvariables]
          rfl
      · cases hparse
  · next hother => exact absurd hparse (hother options)

end CommandLine

/-! ## Serving and showing -/

namespace Connection

variable {σ ω : Type} [sink : Sink ω] {taken : ω → Bytes} {sound : ω → Prop} {mapper : Mapper σ}
  {c : Connection σ ω}

/-- A run succeeds just if its reader meets no trouble. -/
theorem run_eq_ok_iff (hcompiler : mapper.compiler.Local) (hopen : sink.Open taken sound)
    (hsound : sound c.output) : (run mapper c).1 = .ok () ↔ c.reader.trouble? = none := by
  obtain ⟨hending, -⟩ := run_of_local hcompiler hopen hsound
  have hresult : (run mapper c).1 = (ending c.reader.trouble?).1 := congrArg Prod.fst hending
  rw [hresult]
  cases c.reader.trouble? with
  | none => exact iff_of_true rfl rfl
  | some failure =>
      constructor
      · intro hok
        cases hok
      · intro hnone
        cases hnone

end Connection

namespace Program

open CommandLine

variable {launcher : Launcher} {start shown : Start} {settings : Settings} {options : Options}

/-- The reader of the input. -/
def Start.reader (start : Start) : Reader := { stream := { rest := start.input } }

/-- The program is asked to show its input. -/
def Start.Shows (start : Start) : Prop :=
  ∃ options, parse start.arguments start.environment = .work options ∧ options.dumpBlocks = true

/-- The same start, but asked to show the input. -/
def Start.showing (start : Start) : Start :=
  { start with arguments := showOption :: start.arguments }

/-- A start that can serve can be asked to show instead. -/
theorem shows_showing (h : start.settings? = some settings) : start.showing.Shows := by
  obtain ⟨options, hparse, hdump, -, -⟩ := settings?_eq_some_iff.mp h
  exact ⟨options.showing, parse_showing hparse hdump, rfl⟩

theorem run_of_shows (launcher : Launcher) (h : start.Shows) : runBy launcher start = dump start := by
  obtain ⟨options, hparse, hdump⟩ := h
  simp only [runBy, hparse, hdump]
  rfl

/-- Showing succeeds if the reader comes to the end of its stream. -/
theorem status_dump_eq_zero_iff : (dump start).status = 0 ↔ start.reader.blocks.2.1 = none := by
  show statusOf start.reader.blocks.2.1 = 0 ↔ _
  cases start.reader.blocks.2.1 with
  | none => exact iff_of_true rfl rfl
  | some failure =>
      constructor
      · intro hzero
        cases hzero
      · intro hnone
        cases hnone

/-- The connection of a start that serves. -/
def Start.connection (start : Start) : Connection Bytes where
  reader := start.reader
  session := { workspace := { files := start.files, compilerState := [] } }

theorem open_connection : start.connection.output.Open where
  limit := rfl
  atOnce := by
    intro most hmost
    cases hmost
  flushFault := rfl

/-- Serving succeeds if the run over the input does. -/
theorem status_serve_eq_zero_iff : (serve launcher settings start).status = 0
    ↔ (start.connection.run ⟨settings, launcher.compiler start.environment⟩).1 = .ok () := by
  cases hrun : start.connection.run ⟨settings, launcher.compiler start.environment⟩ with
  | mk outcome last =>
      rw [Start.connection, Start.reader] at hrun
      simp only [serve, hrun]
      cases outcome with
      | ok done => exact iff_of_true rfl rfl
      | error failure =>
          constructor
          · intro hzero
            cases hzero
          · intro hok
            cases hok

/-- The inputs that are served are those that can be shown, if no message in them lacks words: by the
    program itself, whatever starts its children, and by any run over its input, whatever the session, the
    files and the compiler are. -/
structure ServesAsShown (start shown : Start) : Prop where
  program : ∀ launcher other : Launcher,
    ((runBy launcher start).status = 0 ↔ (runBy other shown).status = 0
      ∧ ∀ block ∈ start.reader.blocks.1, ∀ message ∈ block, message ≠ [])
  anyRun : ∀ {σ ω : Type} [sink : Sink ω] {taken : ω → Bytes} {sound : ω → Prop} (mapper : Mapper σ)
    (c : Connection σ ω) (other : Launcher), mapper.compiler.Local → sink.Open taken sound →
    sound c.output → c.reader = start.reader →
    ((c.run mapper).1 = .ok () ↔ (runBy other shown).status = 0
      ∧ ∀ block ∈ start.reader.blocks.1, ∀ message ∈ block, message ≠ [])
  /-- The blocks of the input are what an iteration goes through. -/
  iterated : Reader.Iterates start.reader start.reader.blocks.1 start.reader.blocks.2.1

/-- **What is served is what can be shown.**  A program that is started to serve, whatever its settings,
    variables, files and children are, exits with zero if and only if the same program exits with zero when
    it is asked to show the same input, and every message of the input has a word. -/
theorem serves_as_shown (h : start.settings? = some settings) :
    start.showing.Shows ∧ ∀ shown : Start, shown.Shows → shown.input = start.input →
      ServesAsShown start shown := by
  refine ⟨shows_showing h, fun shown hshows hinput => ?_⟩
  have hreader : shown.reader = start.reader := by
    rw [Start.reader, hinput]
    rfl
  have hshown : ∀ other, (runBy other shown).status = 0 ↔ start.reader.blocks.2.1 = none := by
    intro other
    rw [run_of_shows other hshows, status_dump_eq_zero_iff, hreader]
  have hany : ∀ {σ ω : Type} [sink : Sink ω] {taken : ω → Bytes} {sound : ω → Prop} (mapper : Mapper σ)
      (c : Connection σ ω) (other : Launcher), mapper.compiler.Local → sink.Open taken sound →
      sound c.output → c.reader = start.reader →
      ((c.run mapper).1 = .ok () ↔ (runBy other shown).status = 0
        ∧ ∀ block ∈ start.reader.blocks.1, ∀ message ∈ block, message ≠ []) := by
    intro σ ω sink taken sound mapper c other hcompiler hopen hsound hsame
    rw [Connection.run_eq_ok_iff hcompiler hopen hsound, hsame, Reader.trouble?_eq_none_iff, hshown]
  refine ⟨?_, hany, Reader.iterates_blocks rfl⟩
  intro launcher other
  rw [run_of_settings? launcher h, status_serve_eq_zero_iff]
  exact hany _ start.connection other (launcher.local_compiler start.environment) Sink.open_ofStream
    open_connection rfl

/-- What starts no child. -/
def barren : Launcher where
  launch _ _ _ := .error .notFound

/-- An input with a line without words between two blocks. -/
def gappedStart : Start :=
  { crossStart with input := Bytes.ofString "HELLO 1 GCC ''\n\nMODULE-REPO\n" }

/-- The gapped input can be shown, but it is not served. -/
theorem serves_as_shown_gappedStart :
    gappedStart.settings? = some crossSettings
      ∧ gappedStart.showing.Shows ∧ gappedStart.showing.input = gappedStart.input
      ∧ (runBy barren gappedStart.showing).status = 0 ∧ (runBy barren gappedStart).status ≠ 0 := by
  have hcross : crossStart.settings? = some crossSettings :=
    settings?_bareStart
      { settings :=
          { crossPrefix := "arm-", standard := "c++23", sourceDir := some (Bytes.ofString "src") }
        given := [.sourceDir, .crossPrefix] }
      (by decide +kernel) rfl rfl
  have hsettings : gappedStart.settings? = some crossSettings := hcross
  obtain ⟨hshows, hserves⟩ := serves_as_shown hsettings
  have hshown : (runBy barren gappedStart.showing).status = 0 := by
    rw [run_of_shows barren hshows, status_dump_eq_zero_iff]
    decide +kernel
  refine ⟨hsettings, hshows, rfl, hshown, fun hserved => ?_⟩
  -- the line in between is a block of one message, which has no word
  have hgap : [([] : Message)] ∈ gappedStart.reader.blocks.1 := by
    decide +kernel
  exact (((hserves gappedStart.showing hshows rfl).program barren barren).mp hserved).2 _ hgap []
    (List.mem_singleton_self _) rfl

end Program

end ModuleMapper
