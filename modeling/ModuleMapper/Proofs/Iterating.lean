import ModuleMapper.Proofs.Cursors
import ModuleMapper.Proofs.Endings

/-!
# Iterating — block after block, and when it is over

  The blocks of a stream can be had in two ways.  Whoever asks for the next block may ask again behind a
  failure: the rest of a line may follow, more blocks, or the end of the stream.  An iteration gives the same
  blocks, and the first failure, but then it is over: whatever the reader is asked for in between, a further
  step gives nothing and leaves the reader as it is (`Fused`).

  The two agree step by step as long as blocks are delivered (`answers_steps`, `after_steps_of_le`).  They part
  where the first answer is no block, and from there on only the note that the iteration is over tells the
  readers apart (`after_steps_of_lt`).
-/

namespace ModuleMapper.Wire

namespace Reader

variable {r : Reader}

/-! ## Steps -/

theorem finished_readLine (r : Reader) : r.readLine.2.finished = r.finished := by
  rw [readLine]
  split
  · rfl
  · simp only
    split
    · rfl
    · split
      · rfl
      · rfl

theorem finished_readToken (r : Reader) : r.readToken.2.finished = r.finished := by
  fun_induction readToken r with
  | case1 => rfl
  | case2 => rfl
  | case3 r hscan blank | case4 r hscan blank => exact finished_readLine blank
  | case5 r hscan blank hline ih => exact ih.trans (finished_readLine blank)
  | case6 r | case7 r => exact finished_readLine r
  | case8 r hscan hline ih => exact ih.trans (finished_readLine r)

theorem finished_complete (draft : Draft) (r : Reader) : (complete draft r).2.finished = r.finished := by
  fun_induction complete draft r with
  | case1 draft r | case2 draft r | case3 draft r => exact finished_readToken r
  | case4 draft r token htoken next hfeed ih => exact ih.trans (finished_readToken r)

/-- Reading a block is no part of an iteration. -/
theorem finished_readBlock (r : Reader) : r.readBlock.2.finished = r.finished := finished_complete {} r

section Iterate

variable {failure : Failure} {block : Block}

/-- An iteration that is over gives nothing, and leaves its reader as it is. -/
theorem iterate_of_finished (h : r.finished = true) : r.iterate = (none, r) := by
  rw [iterate, if_pos h]

theorem iterate_of_error (h : r.finished = false) (hblock : r.readBlock.1 = .error failure) :
    r.iterate = (some (.error failure), { r.readBlock.2 with finished := true }) := by
  have hread : r.readBlock = (.error failure, r.readBlock.2) := Prod.ext hblock rfl
  rw [iterate, h, hread]
  rfl

theorem iterate_of_end (h : r.finished = false) (hblock : r.readBlock.1 = .ok []) :
    r.iterate = (none, { r.readBlock.2 with finished := true }) := by
  have hread : r.readBlock = (.ok [], r.readBlock.2) := Prod.ext hblock rfl
  rw [iterate, h, hread]
  rfl

theorem iterate_of_block (h : r.finished = false) (hblock : r.readBlock.1 = .ok block)
    (hne : block ≠ []) : r.iterate = (some (.ok block), r.readBlock.2) := by
  have hread : r.readBlock = (.ok block, r.readBlock.2) := Prod.ext hblock rfl
  obtain ⟨message, others, rfl⟩ := List.exists_cons_of_ne_nil hne
  rw [iterate, h, hread]
  rfl

/-! What a step answers, with the reader behind it. -/

theorem ask_step_of_finished (h : r.finished = true) : r.ask .step = (.step none, r) := by
  rw [ask, iterate_of_finished h]

theorem ask_step_of_error (h : r.finished = false) (hblock : r.readBlock.1 = .error failure) :
    r.ask .step = (.step (some (.error failure)), { r.readBlock.2 with finished := true }) := by
  rw [ask, iterate_of_error h hblock]

theorem ask_step_of_end (h : r.finished = false) (hblock : r.readBlock.1 = .ok []) :
    r.ask .step = (.step none, { r.readBlock.2 with finished := true }) := by
  rw [ask, iterate_of_end h hblock]

theorem ask_step_of_block (h : r.finished = false) (hblock : r.readBlock.1 = .ok block)
    (hne : block ≠ []) : r.ask .step = (.step (some (.ok block)), r.readBlock.2) := by
  rw [ask, iterate_of_block h hblock hne]

end Iterate

/-! ## Behind the end of an iteration -/

/-- An iteration that is over stays so, whatever its reader is asked for. -/
theorem finished_after (h : r.finished = true) (asks : List Ask) : (after asks r).finished = true := by
  induction asks generalizing r with
  | nil => exact h
  | cons ask asks ih =>
      cases ask with
      | block => exact ih ((finished_readBlock r).trans h)
      | step =>
          rw [after, ask_step_of_finished h]
          exact ih h

/-- Step after step, it gives nothing. -/
theorem steps_of_finished (h : r.finished = true) (count : Nat) :
    answers (List.replicate count .step) r = List.replicate count (.step none)
      ∧ after (List.replicate count .step) r = r := by
  induction count with
  | zero => exact ⟨rfl, rfl⟩
  | succ count ih =>
      rw [List.replicate_succ, answers, after, ask_step_of_finished h, ih.1, ih.2]
      exact ⟨rfl, rfl⟩

/-! ## The same blocks -/

/-- What a reader says when it is asked for block after block, up to the first answer that is none: its
    blocks, and then the empty block or the failure. -/
def outcomes (delivered : List Block) (failure : Option Failure) : List (Except Failure Block) :=
  delivered.map .ok ++ [failure.elim (.ok []) .error]

/-- What an iteration makes of it: its blocks, and then the failure if there is one. -/
def items (delivered : List Block) (failure : Option Failure) : List (Except Failure Block) :=
  delivered.map .ok ++ failure.toList.map .error

theorem items_cons (block : Block) (others : List Block) (failure : Option Failure) :
    items (block :: others) failure = .ok block :: items others failure := rfl

/-- No block among those up to the end is empty. -/
theorem ne_nil_of_mem_blocks (r : Reader) : ∀ block ∈ r.blocks.1, block ≠ [] := by
  induction r using Reader.blocks.induct with
  | case1 r failure hblock =>
      rw [blocks_of_error hblock]
      exact List.forall_mem_nil _
  | case2 r hblock =>
      rw [blocks_of_end hblock]
      exact List.forall_mem_nil _
  | case3 r block hblock hne _ _ _ _ ih =>
      rw [blocks_of_block hblock hne]
      exact List.forall_mem_cons.mpr ⟨hne, ih⟩

/-- Asked for block after block, a reader gives its blocks and what ends them. -/
theorem answers_blocks (r : Reader) :
    answers (List.replicate (r.blocks.1.length + 1) .block) r
        = (outcomes r.blocks.1 r.blocks.2.1).map .block
      ∧ after (List.replicate (r.blocks.1.length + 1) .block) r = r.blocks.2.2 := by
  induction r using Reader.blocks.induct with
  | case1 r failure hblock =>
      rw [blocks_of_error hblock]
      exact ⟨congrArg (fun outcome => [Answer.block outcome]) hblock, rfl⟩
  | case2 r hblock =>
      rw [blocks_of_end hblock]
      exact ⟨congrArg (fun outcome => [Answer.block outcome]) hblock, rfl⟩
  | case3 r block hblock hne _ _ _ _ ih =>
      have hask : r.ask .block = (.block (.ok block), r.readBlock.2) := by rw [ask, hblock]
      rw [blocks_of_block hblock hne, List.length_cons, List.replicate_succ, answers, after, hask, ih.1, ih.2]
      exact ⟨rfl, rfl⟩

/-- **Step after step, an iteration gives the same blocks**, then the failure, and then nothing.  Induction
    on the blocks, however many steps there are. -/
theorem answers_steps (h : r.finished = false) (count : Nat) :
    answers (List.replicate count .step) r
      = ((items r.blocks.1 r.blocks.2.1).take count).map (fun item => .step (some item))
        ++ List.replicate (count - (items r.blocks.1 r.blocks.2.1).length) (.step none) := by
  induction r using Reader.blocks.induct generalizing count with
  | case1 r failure hblock =>
      rw [blocks_of_error hblock]
      cases count with
      | zero => rfl
      | succ count =>
          rw [List.replicate_succ, answers, ask_step_of_error h hblock, (steps_of_finished rfl count).1]
          show _ = ([Except.error failure].take (count + 1)).map _ ++ _
          rw [List.take_succ_cons, List.take_nil]
          rfl
  | case2 r hblock =>
      rw [blocks_of_end hblock]
      cases count with
      | zero => rfl
      | succ count =>
          rw [List.replicate_succ, answers, ask_step_of_end h hblock, (steps_of_finished rfl count).1]
          rfl
  | case3 r block hblock hne _ _ _ _ ih =>
      rw [blocks_of_block hblock hne, items_cons]
      cases count with
      | zero => rw [List.length_cons, Nat.zero_sub]; rfl
      | succ count =>
          rw [List.replicate_succ, answers, ask_step_of_block h hblock hne,
            ih ((finished_readBlock r).trans h), List.length_cons, Nat.add_sub_add_right]
          rfl

/-- **As long as blocks are delivered, both ways lead to the same reader**; behind them, the iteration is
    over.  Induction on the blocks. -/
theorem after_steps (h : r.finished = false) (count : Nat) :
    after (List.replicate count .step) r
      = if count ≤ r.blocks.1.length then after (List.replicate count .block) r
        else { r.blocks.2.2 with finished := true } := by
  induction r using Reader.blocks.induct generalizing count with
  | case1 r failure hblock =>
      rw [blocks_of_error hblock]
      cases count with
      | zero => rfl
      | succ count =>
          rw [List.replicate_succ, after, ask_step_of_error h hblock, (steps_of_finished rfl count).2]
          rfl
  | case2 r hblock =>
      rw [blocks_of_end hblock]
      cases count with
      | zero => rfl
      | succ count =>
          rw [List.replicate_succ, after, ask_step_of_end h hblock, (steps_of_finished rfl count).2]
          rfl
  | case3 r block hblock hne _ _ _ _ ih =>
      rw [blocks_of_block hblock hne]
      cases count with
      | zero => rfl
      | succ count =>
          rw [List.replicate_succ, List.replicate_succ, after, after, ask_step_of_block h hblock hne,
            List.length_cons]
          simp only [Nat.add_le_add_iff_right]
          exact ih ((finished_readBlock r).trans h) count

end Reader

/-- Where the reader that a cursor is has finished its iteration, so has the cursor. -/
theorem Cursor.iterate_of_finished {c : Cursor} (h : c.reader.finished = true) : c.iterate = (none, c) := by
  rw [iterate, if_pos (show c.finished = true from h)]

namespace Reader

/-! ## Two ways through one stream -/

/-- A reader that is asked for block after block, next to the same reader that is asked for step after
    step. -/
structure Fused (r : Reader) (delivered : List Block) (failure : Option Failure) (last : Reader) : Prop where
  /-- Block after block it gives blocks that are not empty, and then the empty block or a failure. -/
  nonempty : ∀ block ∈ delivered, block ≠ []
  read : answers (List.replicate (delivered.length + 1) .block) r = (outcomes delivered failure).map .block
  stopped : after (List.replicate (delivered.length + 1) .block) r = last
  /-- Step after step it gives the same blocks, the failure once if there is one, and then nothing. -/
  iterated : ∀ count, answers (List.replicate count .step) r
    = ((items delivered failure).take count).map (fun item => .step (some item))
      ++ List.replicate (count - (items delivered failure).length) (.step none)
  /-- Both ways lead to the same readers as long as blocks are delivered, -/
  alike : ∀ count ≤ delivered.length,
    after (List.replicate count .step) r = after (List.replicate count .block) r
  /-- and then steps leave the reader where the last answer has left it. -/
  ended : ∀ count, delivered.length < count →
    after (List.replicate count .step) r = { last with finished := true }
  /-- Whatever it is asked for from there on, blocks too, no further step gives anything or changes it. -/
  still : ∀ asks, (after asks { last with finished := true }).iterate
    = (none, after asks { last with finished := true })
  /-- So it is with a buffer and the position in it, where a reader keeps these. -/
  kept : ∀ c : Cursor, c.reader = r → ∀ count, delivered.length < count → ∀ asks,
    (Cursor.after asks (Cursor.after (List.replicate count .step) c)).iterate
      = (none, Cursor.after asks (Cursor.after (List.replicate count .step) c))

/-- **An iteration gives the blocks that reading gives, and is over for good behind them**, for every stream,
    however it is cut and wherever it fails.  That there would be more to read makes no difference to it. -/
theorem iteration_is_fused (s : InputStream) :
    Fused { stream := s } (blocks { stream := s }).1 (blocks { stream := s }).2.1
      (blocks { stream := s }).2.2 where
  nonempty := ne_nil_of_mem_blocks _
  read := (answers_blocks _).1
  stopped := (answers_blocks _).2
  iterated := answers_steps rfl
  alike := by
    intro count hcount
    rw [after_steps rfl, if_pos hcount]
  ended := by
    intro count hcount
    rw [after_steps rfl, if_neg (Nat.not_le_of_lt hcount)]
  still := by
    intro asks
    exact iterate_of_finished (finished_after rfl asks)
  kept := by
    intro c hc count hcount asks
    -- a cursor notes that an iteration is over where its reader does
    have hover : (Cursor.after (List.replicate count .step) c).reader.finished = true := by
      rw [← (Cursor.reader_after _ c).2, hc, after_steps rfl, if_neg (Nat.not_le_of_lt hcount)]
    have hstill : (Cursor.after asks (Cursor.after (List.replicate count .step) c)).reader.finished = true := by
      rw [← (Cursor.reader_after asks _).2]
      exact finished_after hover asks
    exact Cursor.iterate_of_finished hstill

/-- A stream that fails in the middle of the second block, and ends in the middle of the fourth. -/
def brokenLine : InputStream where
  rest := Bytes.ofString "A\nB ;\nC\nD\nE ;\n"
  chunk := 3
  faults := [⟨4, false, "connection lost"⟩]

/-- The iteration is over with the failure, while whoever asks for blocks gets the rest of the line, the
    block behind it, and the end of the stream behind the block that breaks off. -/
theorem iteration_is_fused_brokenLine :
    answers (List.replicate 4 .step) { stream := brokenLine }
        = [.step (some (.ok [[Bytes.ofString "A"]])), .step (some (.error (.stream (.note "connection lost")))),
          .step none, .step none]
      ∧ answers [.block, .step, .block, .step, .block, .step, .block, .step]
          (after (List.replicate 4 .step) { stream := brokenLine })
        = [.block (.ok [[Bytes.ofString "B"], [Bytes.ofString "C"]]), .step none,
          .block (.ok [[Bytes.ofString "D"]]), .step none, .block (.error .truncated), .step none,
          .block (.ok []), .step none] := by
  have hblocks : (blocks { stream := brokenLine }).1 = [[[Bytes.ofString "A"]]] := by decide +kernel
  have hfailure : (blocks { stream := brokenLine }).2.1 = some (.stream (.note "connection lost")) := by
    decide +kernel
  have hsteps := (iteration_is_fused brokenLine).iterated 4
  rw [hblocks, hfailure] at hsteps
  exact ⟨hsteps, by decide +kernel⟩

end Reader

end ModuleMapper.Wire
