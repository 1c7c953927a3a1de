import ModuleMapper.Child
import ModuleMapper.Proofs.Course
import ModuleMapper.Proofs.Replies
import ModuleMapper.Proofs.Settling

/-!
# Endings — only trouble on the wire ends a run

  With a local compiler and an open output the reader alone says how a run ends: with the first
  block that holds a message without words, with the failure that the reader meets, or with the end of the
  stream, whichever comes first (`Reader.trouble?`).  Files, settings and what the compiler does have no
  part in it, so two runs over the same stream serve the same blocks and end in the same way
  (`ending_run`).

  A compiler that starts children is local, whatever they are: a child that cannot be started, or that does
  not succeed, is a failure of the build.
-/

namespace ModuleMapper

open Wire

/-- A failure to start a child, or of a child, ends no session. -/
theorem Launcher.local_compiler (launcher : Launcher) (inherited : List (String × Bytes)) :
    (launcher.compiler inherited).Local := by
  intro name invocation printed files failure h
  simp only [compiler] at h
  split at h
  · injection h with heq
    rw [← heq]
    rfl
  · simp only at h
    split at h
    · cases h
    · injection h with heq
      rw [← heq]
      rfl

/-- What can go wrong while reading: a read fails, bytes are no token, or the stream ends inside a block. -/
def Failure.IsReading (failure : Failure) : Prop :=
  (∃ cause, failure = .stream cause) ∨ (∃ text, failure = .malformed text) ∨ failure = .truncated

namespace Wire.Reader

variable {r : Reader} {failure : Failure}

/-! ## Failures of readers -/

theorem isReading_of_readToken (h : r.readToken.1 = .error failure) : failure.IsReading := by
  fun_induction readToken r with
  | case1 => cases h
  | case2 r line hscan =>
      injection h with heq
      exact Or.inr (Or.inl ⟨_, heq.symm⟩)
  | case3 r hscan blank cause hline =>
      injection h with heq
      exact Or.inl (stream_of_readLine (heq ▸ hline))
  | case4 => cases h
  | case5 r hscan blank hline ih => exact ih h
  | case6 r hscan cause hline =>
      injection h with heq
      exact Or.inl (stream_of_readLine (heq ▸ hline))
  | case7 r hscan hline =>
      injection h with heq
      exact Or.inr (Or.inr heq.symm)
  | case8 r hscan hline ih => exact ih h

theorem isReading_of_complete {draft : Draft} (h : (complete draft r).1 = .error failure) :
    failure.IsReading := by
  fun_induction complete draft r with
  | case1 draft r cause htoken =>
      injection h with heq
      exact isReading_of_readToken (heq ▸ htoken)
  | case2 draft r htoken =>
      simp only at h
      split at h
      · cases h
      · injection h with heq
        exact Or.inr (Or.inr heq.symm)
  | case3 => cases h
  | case4 draft r token htoken next hfeed ih => exact ih h

/-! ## The trouble that a stream makes -/

theorem blocks_of_error (h : r.readBlock.1 = .error failure) :
    r.blocks = ([], some failure, r.readBlock.2) := by
  rw [blocks]
  split <;> simp_all

theorem blocks_of_end (h : r.readBlock.1 = .ok []) : r.blocks = ([], none, r.readBlock.2) := by
  rw [blocks]
  split <;> simp_all

theorem blocks_of_block {block : Block} (h : r.readBlock.1 = .ok block) (hne : block ≠ []) :
    r.blocks = (block :: r.readBlock.2.blocks.1, r.readBlock.2.blocks.2) := by
  rw [blocks]
  split <;> simp_all

/-- What ends the blocks of a reader is a failure of reading. -/
theorem isReading_of_blocks (h : r.blocks.2.1 = some failure) : failure.IsReading := by
  fun_induction blocks r with
  | case1 r cause hblock =>
      injection h with heq
      exact isReading_of_complete (heq ▸ hblock)
  | case2 => cases h
  | case3 r block hblock hne others cause last hothers ih =>
      rw [hothers] at ih
      exact ih h

/-- What a stream brings a run to fail with: a message without words, if a block has one, and else the
    failure that ends the blocks. -/
def trouble? (r : Reader) : Option Failure :=
  if r.blocks.1.all Block.isWordy then r.blocks.2.1 else some .emptyMessage

theorem trouble?_of_error (h : r.readBlock.1 = .error failure) : r.trouble? = some failure := by
  rw [trouble?, blocks_of_error h]
  rfl

theorem trouble?_of_end (h : r.readBlock.1 = .ok []) : r.trouble? = none := by
  rw [trouble?, blocks_of_end h]
  rfl

theorem trouble?_of_block {block : Block} (h : r.readBlock.1 = .ok block) (hne : block ≠ []) :
    r.trouble? = if block.isWordy then r.readBlock.2.trouble? else some .emptyMessage := by
  rw [trouble?, blocks_of_block h hne, List.all_cons, trouble?]
  cases block.isWordy with
  | true => rw [Bool.true_and, if_pos rfl]
  | false => rfl

end Wire.Reader

/-! ## Endings of runs -/

namespace Connection

variable {σ τ ω υ : Type} [sink : Sink ω] [sink' : Sink υ] {mapper : Mapper σ} {other : Mapper τ}
  {c : Connection σ ω} {d : Connection τ υ}

/-- How a run ends, given the trouble that it meets: its result, and the phase that it leaves behind. -/
def ending : Option Failure → Except Failure Unit × Phase
  | none => (.ok (), .closed)
  | some failure => (.error failure, .failed)

/-- The blocks of a run whose reply got through. -/
def answered (mapper : Mapper σ) (c : Connection σ ω) : List Block :=
  ((course mapper c).filter (Turn.isReplied mapper)).map Turn.block

section Sound

variable {taken : ω → Bytes} {sound : ω → Prop} (hcompiler : mapper.compiler.Local)
  (hopen : sink.Open taken sound) (hsound : sound c.output)

include hcompiler hopen hsound

/-- **A run ends with the trouble of its stream, and answers the blocks in front of it.**  Induction on the
    blocks of the reader. -/
theorem run_of_local :
    ((run mapper c).1, (run mapper c).2.session.phase) = ending c.reader.trouble?
      ∧ answered mapper c = c.reader.served := by
  generalize hreader : c.reader = r
  induction r using Reader.blocks.induct generalizing c with
  | case1 r failure hblock =>
      subst hreader
      have hexchange : exchange mapper c = _ := exchange_of_error hblock
      rw [run_of_error (congrArg Prod.fst hexchange), Reader.trouble?_of_error hblock, answered,
        course_of_error hblock, Reader.served_of_error hblock]
      exact ⟨rfl, rfl⟩
  | case2 r hblock =>
      subst hreader
      have hexchange : exchange mapper c = _ := exchange_of_end hblock
      rw [run_of_false (congrArg Prod.fst hexchange), Reader.trouble?_of_end hblock, answered,
        course_of_end hblock, Reader.served_of_end hblock]
      exact ⟨rfl, rfl⟩
  | case3 r block hblock hne _ _ _ _ ih =>
      subst hreader
      rw [Reader.trouble?_of_block hblock hne, Reader.served_of_block hblock hne, answered,
        course_of_block hblock hne]
      by_cases hwordy : block.isWordy = true
      · -- the block is answered, and the run goes on with the rest
        obtain ⟨hdone, hstill, -⟩ := reply_of_local hcompiler hopen c.listened hsound hwordy
        have hreply : (Turn.reply mapper ⟨block, c.listened⟩).1 = .ok () := hdone
        obtain ⟨hending, hserved⟩ := ih hstill (reader_reply mapper block c.listened)
        rw [if_pos hwordy, if_pos hwordy, run_of_reply hblock hne hreply, hreply,
          List.filter_cons_of_pos (Turn.isReplied_of_ok hreply), List.map_cons]
        exact ⟨hending, congrArg (block :: ·) hserved⟩
      · -- the block has a message without words, and the run ends with it
        have hfailed : (Turn.reply mapper ⟨block, c.listened⟩).1 = .error .emptyMessage :=
          (reply_of_not_isWordy hcompiler c.listened (by simpa using hwordy)).1
        rw [if_neg hwordy, if_neg hwordy, run_of_reply_error hblock hne hfailed, hfailed,
          List.filter_cons_of_neg (by rw [Turn.isReplied_of_error hfailed]; exact Bool.false_ne_true)]
        exact ⟨rfl, rfl⟩

end Sound

/-- A run that ends as its stream does. -/
structure EndsOnWire (mapper : Mapper σ) (c : Connection σ ω) : Prop where
  /-- It succeeds, and is closed, just when every block has words in all its messages and the stream ends
      between two blocks. -/
  closed : (run mapper c).1 = .ok () ∧ (run mapper c).2.session.phase = .closed
    ↔ (∀ block ∈ c.reader.blocks.1, block.isWordy = true) ∧ c.reader.blocks.2.1 = none
  /-- It fails with the first message without words, even if reading fails behind it. -/
  empty : ∀ block ∈ c.reader.blocks.1, block.isWordy = false →
    (run mapper c).1 = .error .emptyMessage ∧ (run mapper c).2.session.phase = .failed
  /-- It fails with the failure of its reader, if there is no such message in front of it. -/
  unread : (∀ block ∈ c.reader.blocks.1, block.isWordy = true) →
    ∀ failure, c.reader.blocks.2.1 = some failure →
      (run mapper c).1 = .error failure ∧ (run mapper c).2.session.phase = .failed
        ∧ failure.IsReading

theorem endsOnWire_of_local {taken : ω → Bytes} {sound : ω → Prop} (hcompiler : mapper.compiler.Local)
    (hopen : sink.Open taken sound) (hsound : sound c.output) : EndsOnWire mapper c := by
  obtain ⟨hending, -⟩ := run_of_local hcompiler hopen hsound
  have hends : ∀ trouble, c.reader.trouble? = trouble →
      (run mapper c).1 = (ending trouble).1
        ∧ (run mapper c).2.session.phase = (ending trouble).2 := by
    intro trouble htrouble
    rw [← htrouble, ← hending]
    exact ⟨rfl, rfl⟩
  have hwordy : (∀ block ∈ c.reader.blocks.1, block.isWordy = true) →
      c.reader.trouble? = c.reader.blocks.2.1 := by
    intro hall
    rw [Reader.trouble?, if_pos (List.all_eq_true.mpr hall)]
  have hempty : ∀ block ∈ c.reader.blocks.1, block.isWordy = false →
      c.reader.trouble? = some .emptyMessage := by
    intro block hblock hnot
    rw [Reader.trouble?, if_neg]
    intro hall
    rw [List.all_eq_true.mp hall block hblock] at hnot
    cases hnot
  refine ⟨⟨?_, ?_⟩, ?_, ?_⟩
  · rintro ⟨hdone, -⟩
    have hall : ∀ block ∈ c.reader.blocks.1, block.isWordy = true := by
      intro block hblock
      by_contra hnot
      have hfailed := (hends _ (hempty block hblock (by simpa using hnot))).1
      rw [hdone] at hfailed
      cases hfailed
    refine ⟨hall, ?_⟩
    cases hfailure : c.reader.blocks.2.1 with
    | none => rfl
    | some failure =>
        have hfailed := (hends _ ((hwordy hall).trans hfailure)).1
        rw [hdone] at hfailed
        cases hfailed
  · rintro ⟨hall, hnone⟩
    exact hends none ((hwordy hall).trans hnone)
  · intro block hblock hnot
    exact hends _ (hempty block hblock hnot)
  · intro hall failure hfailure
    obtain ⟨hfailed, hphase⟩ := hends _ ((hwordy hall).trans hfailure)
    exact ⟨hfailed, hphase, Reader.isReading_of_blocks hfailure⟩

/-- **Only trouble on the wire ends a run.**  With local compilers and open outputs, two runs over
    the same stream end as the stream does, and in the same way, and serve the same blocks, whatever their
    sessions, files, settings and compilers are.  A compiler that starts children is a local one, whatever
    starts them. -/
theorem ending_run {taken : ω → Bytes} {sound : ω → Prop} {taken' : υ → Bytes} {sound' : υ → Prop}
    (hcompiler : mapper.compiler.Local) (hopen : sink.Open taken sound) (hsound : sound c.output)
    (hother : other.compiler.Local) (hopen' : sink'.Open taken' sound') (hsound' : sound' d.output)
    (hreader : d.reader = c.reader) :
    EndsOnWire mapper c
      ∧ (run other d).1 = (run mapper c).1
      ∧ (run other d).2.session.phase = (run mapper c).2.session.phase
      ∧ answered other d = answered mapper c
      ∧ answered mapper c = c.reader.served
      ∧ ∀ (launcher : Launcher) inherited, (launcher.compiler inherited).Local := by
  obtain ⟨hending, hserved⟩ := run_of_local hcompiler hopen hsound
  obtain ⟨hending', hserved'⟩ := run_of_local hother hopen' hsound'
  rw [hreader] at hending' hserved'
  have hsame := hending'.trans hending.symm
  exact ⟨endsOnWire_of_local hcompiler hopen hsound, congrArg Prod.fst hsame, congrArg Prod.snd hsame,
    hserved'.trans hserved.symm, hserved, Launcher.local_compiler⟩

/-- A mapper whose repository cannot be made, and whose compiler always fails. -/
def hopeless : Mapper Unit where
  settings := { repositoryDir := Bytes.ofString "/dev/null/cmi" }
  compiler := { compile := fun name _ state files => (.error (.build name "exit status: 1"), state, files) }

theorem local_hopeless : hopeless.compiler.Local := by
  intro name invocation state files failure h
  injection h with heq
  rw [← heq]
  rfl

/-- Two blocks, and a third one that the stream breaks off. -/
def brokenStream : InputStream where
  rest := Bytes.ofString "HELLO 1 GCC ''\nMODULE-REPO ;\nMODULE-IMPORT a\nMODULE-EXPORT a ;\n"

/-- A client that goes away in the middle of a block. -/
def lostClient : Connection Unit where
  reader := { stream := brokenStream }
  session := { workspace := Workspace.blank }

/-- The same client, where a file stands in the way of the repository. -/
def obstructedClient : Connection Unit where
  reader := { stream := brokenStream }
  session := { workspace := { Workspace.blank with
    files := { Workspace.blank.files with
      entries := [([], .directory ⟨0, 0⟩), ([Bytes.ofString "dev"], .file [] ⟨0, 0⟩ false)] } } }

theorem ending_run_lostClient :
    EndsOnWire Mapper.idle lostClient
      ∧ (run Mapper.idle lostClient).1 = .error .truncated
      ∧ (run hopeless obstructedClient).1 = .error .truncated
      ∧ (answered hopeless obstructedClient).length = 2 := by
  have hopen : lostClient.output.Open := ⟨rfl, (fun _ hmost => nomatch hmost), rfl⟩
  have hopen' : obstructedClient.output.Open := ⟨rfl, (fun _ hmost => nomatch hmost), rfl⟩
  obtain ⟨hends, hresult, -, hsame, hserved, -⟩ :=
    ending_run Mapper.local_idle Sink.open_ofStream hopen local_hopeless Sink.open_ofStream hopen' rfl
  have htruncated : (run Mapper.idle lostClient).1 = .error .truncated :=
    (hends.unread (by decide +kernel) .truncated (by decide +kernel)).1
  refine ⟨hends, htruncated, hresult.trans htruncated, ?_⟩
  rw [hsame, hserved]
  decide +kernel

end Connection

end ModuleMapper
