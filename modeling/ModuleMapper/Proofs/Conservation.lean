import Mathlib.Logic.Relation
import ModuleMapper.Proofs.Cursors

/-!
# Conservation — what a reader uses up, holds and has still to take is its input

  Whatever a cursor is asked for, it does one of a few things at a time: it uses up a token, uses up the
  blanks that are all it holds, takes a line from its stream, notes that the stream has ended, or that an
  iteration is over (`Cursor.Step`).  None of these loses a byte or makes one twice (`Cursor.Keeps.step`), so
  no run of them does.

  Its ledger is no mere list of bytes: the tokens in it are spelled by their bytes, and what a cursor
  delivers is what they make (`Cursor.tokens_complete`).  And a cursor that fails has used up nothing of what
  it has failed at: a line that breaks off is held as far as it was taken (`Cursor.BreaksOff`), and bytes
  that are no token, or are a quote that nothing closes, stand where they stood.
-/

namespace ModuleMapper.Wire

/-- What a piece says of its bytes is right. -/
def Piece.Sound : Piece → Prop
  | token bytes found => ∃ blanks spelled, Blank blanks ∧ Spells spelled found ∧ bytes = blanks ++ spelled
  | blanks bytes => Blank bytes

namespace Cursor

variable {c last : Cursor} {input : Bytes}

/-! ## Step by step -/

/-- One thing that a cursor does. -/
inductive Step : Cursor → Cursor → Prop where
  /-- It uses up a token that it holds, -/
  | advance {c : Cursor} {token : Token} {used : Nat} :
      locate c.ahead = .token token used → Step c (c.advance token used)
  /-- or blanks, when it holds nothing else; -/
  | clear {c : Cursor} : locate c.ahead = .blank → Step c c.clear
  /-- it takes a line, or what a fault leaves of it; -/
  | took {c : Cursor} : c.ended = false → Step c c.took
  /-- it notes that its stream has ended, -/
  | ended {c : Cursor} : Step c { c with ended := true }
  /-- or that the iteration over the blocks has. -/
  | finished {c : Cursor} : Step c { c with finished := true }

/-- What a cursor does on its way. -/
abbrev Steps : Cursor → Cursor → Prop := Relation.ReflTransGen Step

theorem steps_fill (c : Cursor) : Steps c c.fill.2 := by
  have hfills := fills_fill c
  generalize c.fill = answer at hfills
  cases hfills with
  | nothing _ => exact .refl
  | fault hended _ => exact .single (.took hended)
  | ended hended _ _ => exact (Relation.ReflTransGen.single (.took hended)).tail .ended
  | line hended _ _ => exact .single (.took hended)

/-- Induction on the lines taken. -/
theorem steps_readToken (c : Cursor) : Steps c c.readToken.2 := by
  fun_induction readToken c with
  | case1 c token used hlocate => exact .single (.advance hlocate)
  | case2 => exact .refl
  | case3 c hlocate failure hline | case4 c hlocate hline =>
      exact .head (.clear hlocate) (steps_fill _)
  | case5 c hlocate hline ih => exact .head (.clear hlocate) ((steps_fill _).trans ih)
  | case6 c hlocate failure hline | case7 c hlocate hline => exact steps_fill c
  | case8 c hlocate hline ih => exact (steps_fill c).trans ih

/-- Induction on the tokens. -/
theorem steps_complete (draft : Draft) (c : Cursor) : Steps c (complete draft c).2 := by
  fun_induction complete draft c with
  | case1 | case2 | case3 => exact steps_readToken _
  | case4 draft c token htoken next hfeed ih => exact (steps_readToken c).trans ih

/-- A step of an iteration that is not over is a block, and perhaps the end of the iteration. -/
theorem iterate_cases (c : Cursor) :
    c.iterate = (none, c)
      ∨ (Reader.Answer.step c.iterate.1).delivered = (Reader.Answer.block c.readBlock.1).delivered
        ∧ (Reader.Answer.step c.iterate.1).failure? = (Reader.Answer.block c.readBlock.1).failure?
        ∧ (c.iterate.2 = c.readBlock.2 ∨ c.iterate.2 = { c.readBlock.2 with finished := true }) := by
  rw [iterate]
  by_cases hfinished : c.finished = true
  · rw [if_pos hfinished]
    exact Or.inl rfl
  · rw [if_neg hfinished]
    refine Or.inr ?_
    obtain ⟨outcome, last⟩ := c.readBlock
    cases outcome with
    | error failure => exact ⟨rfl, rfl, Or.inr rfl⟩
    | ok block =>
        cases block with
        | nil => exact ⟨rfl, rfl, Or.inr rfl⟩
        | cons message others => exact ⟨rfl, rfl, Or.inl rfl⟩

theorem steps_iterate (c : Cursor) : Steps c c.iterate.2 := by
  have hblock : Steps c c.readBlock.2 := steps_complete {} c
  rcases iterate_cases c with hover | ⟨-, -, hsame | hfinished⟩
  · rw [hover]
  · rw [hsame]
    exact hblock
  · rw [hfinished]
    exact hblock.tail .finished

theorem steps_ask (c : Cursor) (ask : Reader.Ask) : Steps c (c.ask ask).2 := by
  cases ask with
  | block => exact steps_complete {} c
  | step => exact steps_iterate c

theorem steps_after (asks : List Reader.Ask) (c : Cursor) : Steps c (after asks c) := by
  induction asks generalizing c with
  | nil => exact .refl
  | cons ask asks ih => exact (steps_ask c ask).trans (ih _)

/-! ## Every byte is somewhere -/

/-- A cursor keeps an input: its position lies inside the buffer, and what it has used up, what it holds and
    what its stream has still to hand over are the input, in this order. -/
structure Keeps (input : Bytes) (c : Cursor) : Prop where
  inside : c.position ≤ c.buffer.length
  whole : c.used.flatMap Piece.bytes ++ c.ahead ++ c.stream.rest = input
  sound : ∀ piece ∈ c.used, piece.Sound

/-- A cursor that has taken nothing yet keeps what is on its stream. -/
theorem Keeps.start (s : InputStream) : Keeps s.rest { stream := s } where
  inside := Nat.le_refl _
  whole := rfl
  sound := List.forall_mem_nil _

/-- What is located says what it uses up. -/
theorem sound_of_locate {buffer : Bytes} {token : Token} {used : Nat}
    (h : locate buffer = .token token used) : (Piece.token (buffer.take used) token).Sound := by
  have hscan := (seen_locate buffer).1
  rw [h] at hscan
  obtain ⟨blanks, spelled, hblanks, hspells, hbuffer⟩ := exists_of_scan_token hscan.symm
  refine ⟨blanks, spelled, hblanks, hspells, ?_⟩
  exact List.append_cancel_right ((List.take_append_drop used buffer).trans hbuffer)

theorem blank_of_locate {buffer : Bytes} (h : locate buffer = .blank) : Blank buffer := by
  have hscan := (seen_locate buffer).1
  rw [h] at hscan
  exact blank_of_scan hscan.symm

theorem ahead_took (h : c.position ≤ c.buffer.length) :
    c.took.ahead = c.ahead ++ c.stream.readLine.taken :=
  List.drop_append_of_le_length h

/-- **Whatever a cursor does, it goes on keeping its input.** -/
theorem Keeps.step (h : c.Keeps input) (hstep : Step c last) : last.Keeps input := by
  cases hstep with
  | @advance token used hlocate =>
      have hwithin := (seen_locate c.ahead).2
      rw [hlocate] at hwithin
      have hused : used ≤ c.buffer.length - c.position := by
        rw [← List.length_drop]
        exact hwithin
      have hinside := h.inside
      have hahead : (c.advance token used).ahead = c.ahead.drop used := (List.drop_drop ..).symm
      refine ⟨?_, ?_, ?_⟩
      · show c.position + used ≤ c.buffer.length
        omega
      · rw [hahead]
        show (c.used ++ [Piece.token (c.ahead.take used) token]).flatMap Piece.bytes ++ c.ahead.drop used
          ++ c.stream.rest = input
        rw [List.flatMap_append, List.flatMap_singleton]
        show c.used.flatMap Piece.bytes ++ c.ahead.take used ++ c.ahead.drop used ++ c.stream.rest = input
        rw [List.append_assoc (c.used.flatMap Piece.bytes), List.take_append_drop]
        exact h.whole
      · show ∀ piece ∈ c.used ++ [Piece.token (c.ahead.take used) token], piece.Sound
        exact List.forall_mem_append.mpr ⟨h.sound, List.forall_mem_singleton.mpr (sound_of_locate hlocate)⟩
  | clear hlocate =>
      refine ⟨Nat.le_refl _, ?_, ?_⟩
      · show (c.used ++ [Piece.blanks c.ahead]).flatMap Piece.bytes ++ [] ++ c.stream.rest = input
        rw [List.flatMap_append, List.flatMap_singleton, List.append_nil]
        exact h.whole
      · show ∀ piece ∈ c.used ++ [Piece.blanks c.ahead], piece.Sound
        exact List.forall_mem_append.mpr ⟨h.sound, List.forall_mem_singleton.mpr (blank_of_locate hlocate)⟩
  | took _ =>
      refine ⟨?_, ?_, h.sound⟩
      · show c.position ≤ (c.buffer ++ c.stream.readLine.taken).length
        rw [List.length_append]
        exact Nat.le_add_right_of_le h.inside
      · rw [ahead_took h.inside]
        show c.used.flatMap Piece.bytes ++ (c.ahead ++ c.stream.readLine.taken)
          ++ c.stream.readLine.stream.rest = input
        rw [← List.append_assoc, List.append_assoc (c.used.flatMap Piece.bytes ++ c.ahead),
          InputStream.readLine_append]
        exact h.whole
  | ended => exact ⟨h.inside, h.whole, h.sound⟩
  | finished => exact ⟨h.inside, h.whole, h.sound⟩

/-- Induction on what it does. -/
theorem Keeps.steps (h : c.Keeps input) (hsteps : Steps c last) : last.Keeps input := by
  induction hsteps with
  | refl => exact h
  | tail _ hstep ih => exact ih.step hstep

/-! ## What is used up is what is delivered -/

/-- The tokens that have been used up. -/
def tokens (c : Cursor) : List Token := c.used.filterMap Piece.token?

theorem tokens_advance (c : Cursor) (token : Token) (used : Nat) :
    (c.advance token used).tokens = c.tokens ++ [token] := by
  rw [tokens, advance, List.filterMap_append]
  rfl

theorem tokens_clear (c : Cursor) : c.clear.tokens = c.tokens := by
  rw [tokens, clear, List.filterMap_append]
  exact List.append_nil _

theorem tokens_fill (c : Cursor) : c.fill.2.tokens = c.tokens := by
  have hfills := fills_fill c
  generalize c.fill = answer at hfills
  cases hfills <;> rfl

/-- The token that is found, if one is. -/
def found : Except Failure (Option Token) → List Token
  | .ok (some token) => [token]
  | .ok none | .error _ => []

/-- A cursor uses up the token that it finds, and no other.  Induction on the lines taken. -/
theorem tokens_readToken (c : Cursor) : c.readToken.2.tokens = c.tokens ++ found c.readToken.1 := by
  fun_induction readToken c with
  | case1 c token used hlocate => exact tokens_advance c token used
  | case2 => exact (List.append_nil _).symm
  | case3 c hlocate failure hline | case4 c hlocate hline =>
      rw [tokens_fill, tokens_clear]
      exact (List.append_nil _).symm
  | case5 c hlocate hline ih => rw [ih, tokens_fill, tokens_clear]
  | case6 c hlocate failure hline | case7 c hlocate hline =>
      rw [tokens_fill]
      exact (List.append_nil _).symm
  | case8 c hlocate hline ih => rw [ih, tokens_fill]

/-- **The tokens that a cursor uses up make the block that it delivers**, and none if it delivers none.
    Induction on the tokens. -/
theorem tokens_complete (draft : Draft) (c : Cursor) :
    ∃ tokens, (complete draft c).2.tokens = c.tokens ++ tokens
      ∧ (draft.assemble tokens).1 = (Reader.Answer.block (complete draft c).1).delivered := by
  fun_induction complete draft c with
  | case1 draft c failure htoken =>
      refine ⟨[], ?_, rfl⟩
      rw [tokens_readToken, htoken]
      rfl
  | case2 draft c htoken =>
      refine ⟨[], ?_, ?_⟩
      · rw [tokens_readToken, htoken]
        rfl
      · simp only
        split <;> rfl
  | case3 draft c token htoken block hfeed =>
      refine ⟨[token], ?_, ?_⟩
      · rw [tokens_readToken, htoken]
        rfl
      · rw [Draft.assemble_of_closed hfeed, Reader.Answer.delivered_of_ne_nil (Draft.ne_nil_of_feed hfeed)]
        rfl
  | case4 draft c token htoken next hfeed ih =>
      obtain ⟨tokens, htokens, hblocks⟩ := ih
      refine ⟨token :: tokens, ?_, ?_⟩
      · rw [htokens, tokens_readToken, htoken, List.append_assoc]
        rfl
      · rw [Draft.assemble_of_open hfeed, hblocks]

/-- Noting that an iteration is over uses up nothing. -/
theorem delivered_ask (c : Cursor) (ask : Reader.Ask) :
    ∃ tokens, (c.ask ask).2.tokens = c.tokens ++ tokens
      ∧ (Draft.assemble {} tokens).1 = (c.ask ask).1.delivered := by
  obtain ⟨tokens, htokens, hblocks⟩ := tokens_complete {} c
  cases ask with
  | block => exact ⟨tokens, htokens, hblocks⟩
  | step =>
      show ∃ tokens, c.iterate.2.tokens = c.tokens ++ tokens
        ∧ (Draft.assemble {} tokens).1 = (Reader.Answer.step c.iterate.1).delivered
      rcases iterate_cases c with hover | ⟨hdelivered, -, hsame | hfinished⟩
      · rw [hover]
        exact ⟨[], (List.append_nil _).symm, rfl⟩
      · rw [hsame, hdelivered]
        exact ⟨tokens, htokens, hblocks⟩
      · rw [hfinished, hdelivered]
        exact ⟨tokens, htokens, hblocks⟩

/-! ## What a failure leaves -/

/-- A line has broken off with a fault, and the part of it that was taken is held behind what was. -/
structure BreaksOff (cause : SystemError) (before last : Cursor) : Prop where
  fault : ∃ fault, before.stream.readLine.fault = some fault ∧ cause = .note fault.text
  stream : last.stream = before.stream.readLine.stream
  buffer : last.buffer = before.buffer ++ before.stream.readLine.taken
  position : last.position = before.position
  used : last.used = before.used

theorem breaksOff_fill {cause : SystemError} (h : c.fill.1 = .error (.stream cause)) :
    BreaksOff cause c c.fill.2 := by
  have hfills := fills_fill c
  generalize c.fill = answer at h hfills
  cases hfills with
  | nothing _ => cases h
  | @fault fault _ hfault =>
      injection h with hfailure
      injection hfailure with hcause
      exact ⟨⟨fault, hfault, hcause.symm⟩, rfl, rfl, rfl, rfl⟩
  | ended _ _ _ => cases h
  | line _ _ _ => cases h

/-- Induction on the lines taken: the last of them broke off. -/
theorem breaksOff_readToken {cause : SystemError} (h : c.readToken.1 = .error (.stream cause)) :
    ∃ before, Steps c before ∧ BreaksOff cause before c.readToken.2 := by
  fun_induction readToken c with
  | case1 | case4 | case7 => cases h
  | case2 => cases h
  | case3 c hlocate failure hline =>
      injection h with hfailure
      exact ⟨c.clear, .single (.clear hlocate), breaksOff_fill (hfailure ▸ hline)⟩
  | case5 c hlocate hline ih =>
      obtain ⟨before, hsteps, hbreaks⟩ := ih h
      exact ⟨before, .head (.clear hlocate) ((steps_fill _).trans hsteps), hbreaks⟩
  | case6 c hlocate failure hline =>
      injection h with hfailure
      exact ⟨c, .refl, breaksOff_fill (hfailure ▸ hline)⟩
  | case8 c hlocate hline ih =>
      obtain ⟨before, hsteps, hbreaks⟩ := ih h
      exact ⟨before, (steps_fill c).trans hsteps, hbreaks⟩

/-- Induction on the tokens. -/
theorem breaksOff_complete {draft : Draft} {cause : SystemError}
    (h : (complete draft c).1 = .error (.stream cause)) :
    ∃ before, Steps c before ∧ BreaksOff cause before (complete draft c).2 := by
  fun_induction complete draft c with
  | case1 draft c failure htoken =>
      injection h with hfailure
      exact breaksOff_readToken (hfailure ▸ htoken)
  | case2 =>
      simp only at h
      split at h <;> cases h
  | case3 => cases h
  | case4 draft c token htoken next hfeed ih =>
      obtain ⟨before, hsteps, hbreaks⟩ := ih h
      exact ⟨before, (steps_readToken c).trans hsteps, hbreaks⟩

theorem breaksOff_ask {ask : Reader.Ask} {cause : SystemError}
    (h : (c.ask ask).1.failure? = some (.stream cause)) :
    ∃ before, Steps c before ∧ BreaksOff cause before (c.ask ask).2 := by
  have hblock : (Reader.Answer.block c.readBlock.1).failure? = some (.stream cause) →
      ∃ before, Steps c before ∧ BreaksOff cause before c.readBlock.2 := by
    intro hfailure
    exact breaksOff_complete (Reader.Answer.eq_of_failure?_block hfailure)
  cases ask with
  | block => exact hblock h
  | step =>
      show ∃ before, Steps c before ∧ BreaksOff cause before c.iterate.2
      have hstep : (Reader.Answer.step c.iterate.1).failure? = some (.stream cause) := h
      rcases iterate_cases c with hover | ⟨-, hfailure, hsame | hfinished⟩
      · rw [hover] at hstep
        cases hstep
      · rw [hsame]
        exact hblock (hfailure.symm.trans hstep)
      · rw [hfinished]
        obtain ⟨before, hsteps, hbreaks⟩ := hblock (hfailure.symm.trans hstep)
        exact ⟨before, hsteps, hbreaks.fault, hbreaks.stream, hbreaks.buffer, hbreaks.position, hbreaks.used⟩

/-- What an ask makes of a cursor, and of its ledger. -/
structure Accounts (c : Cursor) (answer : Reader.Answer) (last : Cursor) : Prop where
  /-- It has done nothing but its few things. -/
  steps : Steps c last
  /-- The tokens that it has used up make the block that it delivers. -/
  delivered : ∃ tokens, last.tokens = c.tokens ++ tokens
    ∧ (Draft.assemble {} tokens).1 = answer.delivered
  /-- Of a line that broke off, the part that was taken is held. -/
  broken : ∀ cause, answer.failure? = some (.stream cause) →
    ∃ before, Steps c before ∧ BreaksOff cause before last
  /-- The bytes that are no token are the next that is held, behind blanks at most. -/
  malformed : ∀ text, answer.failure? = some (.malformed text) →
    ∃ blanks line more, Blank blanks ∧ last.ahead = blanks ++ line ++ more
      ∧ scan last.ahead = .malformed line ∧ text = Text.lossy line
  /-- So is a quote that nothing closes; else the block broke off where all had been used up. -/
  truncated : answer.failure? = some .truncated →
    last.ahead = []
      ∨ ∃ blanks body, Blank blanks ∧ last.ahead = blanks ++ Byte.quote :: body
          ∧ scan last.ahead = .unclosed

theorem accounts_ask (c : Cursor) (ask : Reader.Ask) : Accounts c (c.ask ask).1 (c.ask ask).2 where
  steps := steps_ask c ask
  delivered := delivered_ask c ask
  broken := fun _ h => breaksOff_ask h
  malformed := by
    intro text h
    have hreader := reader_ask c ask
    have hstands : (c.reader.ask ask).2.StandsAt (.malformed text) :=
      Reader.standsAt_ask (by rw [hreader]; exact h)
    rw [hreader] at hstands
    obtain ⟨line, hscan, htext⟩ := hstands
    obtain ⟨blanks, more, hblanks, hahead⟩ := front_of_scan_malformed hscan
    exact ⟨blanks, line, more, hblanks, hahead, hscan, htext⟩
  truncated := by
    intro h
    have hreader := reader_ask c ask
    have hstands : (c.reader.ask ask).2.StandsAt .truncated :=
      Reader.standsAt_ask (by rw [hreader]; exact h)
    rw [hreader] at hstands
    rcases hstands with hscan | hnil
    · obtain ⟨blanks, bytes, hblanks, hahead, hbegins⟩ := scan_eq_iff.mp hscan
      cases hbegins with
      | @unclosed body _ => exact Or.inr ⟨blanks, body, hblanks, hahead, hscan⟩
    · exact Or.inl hnil

/-- **A reader loses no byte and reads none twice**, whatever it is asked for and however often, behind
    failures too.  Its answers are those of a cursor with a ledger.  On all its way the position of the cursor
    lies inside its buffer, and what it has used up, what it holds and what is left on the stream are the
    input.  And each further ask is accounted for: what is delivered is what is used up, and a failure
    uses up nothing of what it is about. -/
theorem keeps_every_byte (s : InputStream) (asks : List Reader.Ask) :
    Reader.answers asks { stream := s } = answers asks { stream := s }
      ∧ Reader.after asks { stream := s } = (after asks { stream := s }).reader
      ∧ Steps { stream := s } (after asks { stream := s })
      ∧ (∀ c, Steps { stream := s } c → c.Keeps s.rest)
      ∧ ∀ ask, Accounts (after asks { stream := s }) ((after asks { stream := s }).ask ask).1
          ((after asks { stream := s }).ask ask).2 := by
  obtain ⟨hanswers, hafter⟩ := reader_after asks { stream := s }
  refine ⟨hanswers, hafter, steps_after asks _, ?_, ?_⟩
  · intro c hsteps
    exact (Keeps.start s).steps hsteps
  · intro ask
    exact accounts_ask _ ask

end Cursor

end ModuleMapper.Wire
