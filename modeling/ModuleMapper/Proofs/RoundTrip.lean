import ModuleMapper.Proofs.Reading
import ModuleMapper.Proofs.TokenGrammar

/-!
# Round trip — what is written is what is read

  The encoding of a word starts with exactly that word, whatever follows it, as long as no bare byte
  follows a bare word (`scan_encode_append`).  The encoding of a block therefore has the tokens of its
  words, of the semicolons that keep the block open, and of the newlines (`tokenize_encode_append`), and
  putting these together gives the block back (`assemble_tokens`).

  So a reader gets back the blocks that were written one after another (`blocks_flatMap_encode`), for
  words of any bytes: inside quotes no byte of a word can be taken for the closing quote, and a word that
  looks like a semicolon is quoted.
-/

namespace ModuleMapper

namespace Wire

open QuotedUnit

/-! ## Words -/

/-- Every byte is written as a unit that stands for it. -/
theorem exists_unit (b : UInt8) : ∃ unit : QuotedUnit, unit.written = Byte.escape b ∧ unit.value = b := by
  rw [Byte.escape]
  by_cases hbackslash : b = Byte.backslash
  · rw [if_pos hbackslash, hbackslash]
    exact ⟨.escape Byte.backslash, rfl, rfl⟩
  rw [if_neg hbackslash]
  by_cases hquote : b = Byte.quote
  · rw [if_pos hquote, hquote]
    exact ⟨.escape Byte.quote, rfl, rfl⟩
  rw [if_neg hquote]
  by_cases hnewline : b = Byte.newline
  · rw [if_pos hnewline, hnewline]
    exact ⟨.escape Byte.letterN, rfl, rfl⟩
  rw [if_neg hnewline]
  by_cases htab : b = Byte.tab
  · rw [if_pos htab, htab]
    exact ⟨.escape Byte.letterT, rfl, rfl⟩
  rw [if_neg htab]
  exact ⟨.plain b hquote hbackslash, rfl, rfl⟩

/-- An escaped word is made of units that stand for its bytes. -/
theorem exists_units (word : Word) :
    ∃ units : List QuotedUnit, writtenAll units = word.flatMap Byte.escape ∧ units.map value = word := by
  induction word with
  | nil => exact ⟨[], rfl, rfl⟩
  | cons b word ih =>
      obtain ⟨unit, hwritten, hvalue⟩ := exists_unit b
      obtain ⟨units, hothers, hword⟩ := ih
      refine ⟨unit :: units, ?_, ?_⟩
      · rw [writtenAll_cons, hwritten, hothers, List.flatMap_cons]
      · rw [List.map_cons, hvalue, hword]

/-- A word is bare if it has bytes, and all of them are. -/
theorem isBare_iff {word : Word} :
    word.isBare = true ↔ word ≠ [] ∧ ∀ b ∈ word, Byte.isBare b = true := by
  rw [Word.isBare, Bool.and_eq_true, Bool.not_eq_true', List.isEmpty_eq_false_iff, List.all_eq_true]

/-- A word is written as it is if it is bare, and between quotes otherwise. -/
theorem encode_cases (word : Word) :
    word.isBare = true ∧ word.encode = word
      ∨ word.isBare = false ∧ ∃ units : List QuotedUnit, units.map value = word
        ∧ word.encode = Byte.quote :: (writtenAll units ++ [Byte.quote]) := by
  rw [Word.encode]
  cases hbare : word.isBare with
  | true => exact Or.inl ⟨rfl, rfl⟩
  | false =>
      obtain ⟨units, hwritten, hvalue⟩ := exists_units word
      exact Or.inr ⟨rfl, units, hvalue, by rw [hwritten]; rfl⟩

/-- What is written of a word spells it. -/
theorem spells_encode (word : Word) : Spells word.encode (.word word) := by
  rcases encode_cases word with ⟨hbare, hencode⟩ | ⟨-, units, hvalue, hencode⟩
  · rw [hencode]
    exact .bare (isBare_iff.mp hbare).1 (isBare_iff.mp hbare).2
  · rw [hencode, ← hvalue]
    exact .quoted units

/-- **A written word is read as that word**, whatever follows, unless it is bare and a bare byte
    follows. -/
theorem scan_encode_append (word : Word) (rest : Bytes)
    (hrest : word.isBare = true → ∀ b ∈ rest.head?, Byte.isBare b = false) :
    scan (word.encode ++ rest) = .token (.word word) rest := by
  rcases encode_cases word with ⟨hbare, hencode⟩ | ⟨-, units, hvalue, hencode⟩
  · rw [hencode]
    exact scan_bare_append_of_head? (isBare_iff.mp hbare).1 (isBare_iff.mp hbare).2 (hrest hbare)
  · rw [hencode, List.cons_append, List.append_assoc, List.singleton_append, scan_quoted, hvalue]

/-! ## Lines and blocks -/

theorem tokenize_cons_of_isBlank {b : UInt8} (h : Byte.isBlank b = true) (rest : Bytes) :
    tokenize (b :: rest) = tokenize rest := by
  rw [tokenize.eq_def (b :: rest), tokenize.eq_def rest, scan_cons_of_isBlank h]

/-- A written word is the first token, if no bare byte follows. -/
theorem tokenize_word (word : Word) {b : UInt8} (hb : Byte.isBare b = false) (rest : Bytes) :
    tokenize (word.encode ++ b :: rest)
      = (.word word :: (tokenize (b :: rest)).1, (tokenize (b :: rest)).2) := by
  refine tokenize_of_token (scan_encode_append word (b :: rest) ?_)
  intro _ c hc
  rw [← Option.some.inj hc]
  exact hb

/-- The words of a written message are its tokens. -/
theorem tokenize_message (message : Message) {b : UInt8} (hb : Byte.isBare b = false) (rest : Bytes) :
    tokenize (message.encode ++ b :: rest)
      = (message.map Token.word ++ (tokenize (b :: rest)).1, (tokenize (b :: rest)).2) := by
  fun_induction Message.encode message with
  | case1 => rfl
  | case2 word => exact tokenize_word word hb rest
  | case3 word others hothers ih =>
      rw [List.append_assoc, List.cons_append, tokenize_word word rfl,
        tokenize_cons_of_isBlank rfl, ih]
      rfl

end Wire

namespace Block

open Wire

/-- The tokens of a block as it is written. -/
def tokens : Block → List Token
  | [] => []
  | [message] => message.map Token.word ++ [.newline]
  | message :: others => message.map Token.word ++ .continuation :: .newline :: tokens others

theorem tokens_cons (message : Message) {others : Block} (h : others ≠ []) :
    tokens (message :: others)
      = message.map Token.word ++ .continuation :: .newline :: tokens others := by
  cases others with
  | nil => exact absurd rfl h
  | cons other others => rfl

/-- What is written of a block has the tokens of the block, in front of those of what follows. -/
theorem tokenize_encode_append (block : Block) (rest : Bytes) :
    tokenize (block.encode ++ rest) = (block.tokens ++ (tokenize rest).1, (tokenize rest).2) := by
  fun_induction Block.encode block with
  | case1 => rfl
  | case2 message =>
      have hline := tokenize_of_token (scan_newline rest)
      rw [List.append_assoc, List.singleton_append, tokenize_message message rfl, hline, tokens,
        List.append_assoc]
      rfl
  | case3 message others hothers ih =>
      -- a line that keeps the block open: the semicolon stands alone, and is a token of its own
      have hmarker := tokenize_of_token (scan_semicolon (Byte.newline :: (encode others ++ rest)))
      have hline := tokenize_of_token (scan_newline (encode others ++ rest))
      rw [List.append_assoc, List.append_assoc, List.cons_append, List.cons_append, List.cons_append,
        List.nil_append, tokenize_message message rfl, tokenize_cons_of_isBlank rfl, hmarker, hline,
        ih, tokens_cons message hothers]
      simp only [List.append_assoc, List.cons_append]

end Block

namespace Wire

/-- Words make a line longer. -/
theorem assemble_words (messages : Block) (words message : List Word) (tokens : List Token) :
    Draft.assemble { messages, words } (message.map Token.word ++ tokens)
      = Draft.assemble { messages, words := words ++ message } tokens := by
  induction message generalizing words with
  | nil => rw [List.append_nil, List.map_nil, List.nil_append]
  | cons word message ih =>
      have hfeed : Draft.feed { messages, words } (.word word)
          = .open { messages, words := words ++ [word] } := rfl
      rw [List.map_cons, List.cons_append, Draft.assemble_of_open hfeed, ih, List.append_assoc,
        List.singleton_append]

/-- **The tokens of a block give the block back.**  Induction on the messages; those of the lines before
    are in the draft already. -/
theorem assemble_tokens (messages block : Block) (hne : block ≠ []) (tokens : List Token) :
    Draft.assemble { messages } (block.tokens ++ tokens)
      = ((messages ++ block) :: (Draft.assemble {} tokens).1, (Draft.assemble {} tokens).2) := by
  fun_induction Block.tokens block generalizing messages with
  | case1 => exact absurd rfl hne
  | case2 message =>
      have hfeed : Draft.feed { messages, words := message } .newline
          = .closed (messages ++ [message]) := rfl
      rw [List.append_assoc, List.singleton_append, assemble_words, List.nil_append,
        Draft.assemble_of_closed hfeed]
  | case3 message others hothers ih =>
      -- the semicolon is followed by the newline, so it does not become a word
      have hmark : Draft.feed { messages, words := message } .continuation
          = .open { messages, words := message, marked := true } := rfl
      have hline : Draft.feed { messages, words := message, marked := true } .newline
          = .open { messages := messages ++ [message] } := rfl
      rw [List.append_assoc, List.cons_append, List.cons_append, assemble_words, List.nil_append,
        Draft.assemble_of_open hmark, Draft.assemble_of_open hline, ih _ hothers, List.append_assoc,
        List.singleton_append]

/-- What is written of blocks means these blocks. -/
theorem outcome_flatMap_encode (blocks : List Block) (h : ∀ block ∈ blocks, block ≠ []) :
    Draft.outcome {} (tokenize (blocks.flatMap Block.encode)) = (blocks, none) := by
  induction blocks with
  | nil =>
      rw [List.flatMap_nil, tokenize_nil]
      rfl
  | cons block blocks ih =>
      have hothers := ih (fun other hother => h other (List.mem_cons_of_mem _ hother))
      have hblock := assemble_tokens [] block (h block List.mem_cons_self)
      rw [List.flatMap_cons, Block.tokenize_encode_append]
      simp only [Draft.outcome, Prod.mk.injEq] at hothers ⊢
      rw [hblock]
      exact ⟨by rw [hothers.1]; rfl, hothers.2⟩

/-- At the end of its input a steady reader gives the empty block, again and again. -/
theorem readBlock_of_input_nil {r : Reader} (h : r.Steady) (hinput : r.input = []) :
    r.readBlock.1 = .ok [] := by
  have hread : Reader.Completes _ r.readBlock := Reader.complete_of_steady h
  have hnone : Draft.outcome {} ([], none) = ([], none) := rfl
  rw [hinput, tokenize_nil, hnone, Reader.Completes] at hread
  cases hanswer : r.readBlock.1 with
  | error failure =>
      rw [hanswer] at hread
      cases hread
  | ok block =>
      cases block with
      | nil => rfl
      | cons message others =>
          rw [hanswer] at hread
          cases hread.2

/-- A calm stream of encoded blocks yields these blocks, and leaves a steady reader behind that has nothing
    more to read. -/
theorem exists_blocks_of_encoded {blocks : List Block} (hblocks : ∀ block ∈ blocks, block ≠ [])
    {s : InputStream} (hs : s.Calm) (hrest : s.rest = blocks.flatMap Block.encode) :
    ∃ last, Reader.blocks { stream := s } = (blocks, none, last) ∧ last.Steady ∧ last.input = [] := by
  obtain ⟨hread, hlast⟩ := Reader.blocks_of_steady (Reader.Steady.start hs)
  have hinput : Reader.input { stream := s } = blocks.flatMap Block.encode := hrest
  rw [hinput, outcome_flatMap_encode blocks hblocks] at hread
  injection hread with hsame hclean
  obtain ⟨hsteady, hnothing⟩ := hlast hclean
  exact ⟨(Reader.blocks { stream := s }).2.2, by rw [← hsame, ← hclean], hsteady, hnothing⟩

/-- **Blocks that were written are read.**  A calm stream that serves the encodings of blocks with
    messages, one after another, yields these blocks, and then the empty block that says that the stream
    has ended. -/
theorem blocks_flatMap_encode (blocks : List Block) (hblocks : ∀ block ∈ blocks, block ≠ [])
    (s : InputStream) (hs : s.Calm) (hrest : s.rest = blocks.flatMap Block.encode) :
    ∃ last, Reader.blocks { stream := s } = (blocks, none, last)
      ∧ last.stream.rest = [] ∧ last.readBlock.1 = .ok [] := by
  obtain ⟨last, hread, hsteady, hnothing⟩ := exists_blocks_of_encoded hblocks hs hrest
  exact ⟨last, hread, (List.append_eq_nil_iff.mp hnothing).2, readBlock_of_input_nil hsteady hnothing⟩

/-- Blocks whose words look like what stands between words: a semicolon, nothing at all, a quote behind a
    backslash, a newline; with messages that have no words. -/
def awkwardBlocks : List Block :=
  [[[[Byte.semicolon], [], [Byte.backslash, Byte.quote]], [], [[0xFF, Byte.newline]]], [[]],
    [[], [[Byte.letterN], [Byte.tab, Byte.backslash]]]]

/-- The awkward blocks as they are written, served byte by byte and interrupted twice. -/
def awkwardStream : InputStream where
  rest := awkwardBlocks.flatMap Block.encode
  chunk := 1
  faults := [⟨2, true, "interrupted"⟩, ⟨2, true, "interrupted"⟩]

theorem blocks_flatMap_encode_awkwardBlocks :
    (∀ block ∈ awkwardBlocks, block ≠ []) ∧ awkwardStream.Calm
      ∧ ∃ last, Reader.blocks { stream := awkwardStream } = (awkwardBlocks, none, last)
        ∧ last.stream.rest = [] ∧ last.readBlock.1 = .ok [] := by
  have hcalm : awkwardStream.Calm := ⟨by decide, by decide⟩
  have hblocks : ∀ block ∈ awkwardBlocks, block ≠ [] := by decide
  exact ⟨hblocks, hcalm, blocks_flatMap_encode awkwardBlocks hblocks awkwardStream hcalm rfl⟩

end Wire

end ModuleMapper
