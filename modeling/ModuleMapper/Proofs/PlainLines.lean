import ModuleMapper.Proofs.RoundTrip

/-!
# Plain lines — no word can make a line

  Whatever the bytes of its words are, a message is written without a newline and without a tab, and not
  with a semicolon at its end.  So a block is written in as many lines as it has messages, and a line ends in
  the marker, a space and a semicolon, just if another one of the block follows (`lineByLine`).

  A peer that knows nothing of tokens can therefore tell blocks and messages apart: it splits what arrives at
  the newlines and looks at how each line ends (`readPlainly`).
-/

namespace ModuleMapper

open Wire QuotedUnit

/-! ## Bytes that are never written -/

/-- Newlines and tabs are escaped by letters. -/
theorem Byte.not_mem_escape {c : UInt8} (hc : c = newline ∨ c = tab) (b : UInt8) : c ∉ escape b := by
  rw [escape]
  split_ifs with hbackslash hquote hnewline htab
  · rcases hc with rfl | rfl <;> decide
  · rcases hc with rfl | rfl <;> decide
  · rcases hc with rfl | rfl <;> decide
  · rcases hc with rfl | rfl <;> decide
  · intro hmem
    rw [← List.mem_singleton.mp hmem] at hnewline htab
    exact hc.elim hnewline htab

namespace Word

/-- A word is written without newlines and tabs. -/
theorem not_mem_encode {c : UInt8} (hc : c = Byte.newline ∨ c = Byte.tab) (word : Word) :
    c ∉ word.encode := by
  rw [encode]
  by_cases hbare : word.isBare = true
  · rw [if_pos hbare]
    intro hmem
    have hc' := (isBare_iff.mp hbare).2 c hmem
    rcases hc with rfl | rfl
    · cases hc'
    · cases hc'
  · rw [if_neg hbare]
    have hquote : c ≠ Byte.quote := by
      rcases hc with rfl | rfl <;> decide
    intro hmem
    rcases List.mem_append.mp (List.mem_of_ne_of_mem hquote hmem) with hbody | hend
    · obtain ⟨b, -, hescape⟩ := List.mem_flatMap.mp hbody
      exact Byte.not_mem_escape hc b hescape
    · exact hquote (List.mem_singleton.mp hend)

/-- What is written of a word ends in a bare byte or in a quote. -/
theorem exists_getLast?_encode (word : Word) :
    ∃ last, word.encode.getLast? = some last ∧ last ≠ Byte.semicolon := by
  rcases encode_cases word with ⟨hbare, hencode⟩ | ⟨-, units, -, hencode⟩
  · obtain ⟨hne, hall⟩ := isBare_iff.mp hbare
    rw [hencode]
    exact ⟨word.getLast hne, List.getLast?_eq_some_getLast hne,
      Byte.ne_of_isBare (hall _ (List.getLast_mem hne)) rfl⟩
  · refine ⟨Byte.quote, ?_, by decide⟩
    rw [hencode, ← List.cons_append, List.getLast?_concat]

end Word

namespace Message

theorem not_mem_encode {c : UInt8} (hc : c = Byte.newline ∨ c = Byte.tab) (message : Message) :
    c ∉ message.encode := by
  fun_induction encode message with
  | case1 => exact List.not_mem_nil
  | case2 word => exact word.not_mem_encode hc
  | case3 word others hothers ih =>
      intro hmem
      rcases List.mem_append.mp hmem with hword | hrest
      · exact word.not_mem_encode hc hword
      · rcases List.mem_cons.mp hrest with hspace | hmore
        · rcases hc with rfl | rfl
          · cases hspace
          · cases hspace
        · exact ih hmore

/-- A message with words does not end in a semicolon either. -/
theorem exists_getLast?_encode {message : Message} (h : message ≠ []) :
    ∃ last, message.encode.getLast? = some last ∧ last ≠ Byte.semicolon := by
  fun_induction encode message with
  | case1 => exact absurd rfl h
  | case2 word => exact word.exists_getLast?_encode
  | case3 word others hothers ih =>
      obtain ⟨last, hlast, hne⟩ := ih hothers
      refine ⟨last, ?_, hne⟩
      rw [List.getLast?_append, List.getLast?_cons, hlast]
      rfl

end Message

/-! ## The lines of a block -/

/-- How a line ends that is followed by another one of its block. -/
abbrev Wire.marker : Bytes := [Byte.space, Byte.semicolon]

/-- The end of a line tells it from the last one of its block. -/
theorem Message.not_marker_suffix_encode (message : Message) : ¬ marker <:+ message.encode := by
  rintro ⟨front, hfront⟩
  by_cases hnil : message = []
  · rw [hnil] at hfront
    exact List.append_ne_nil_of_right_ne_nil front (List.cons_ne_nil _ _) hfront
  · obtain ⟨last, hlast, hne⟩ := exists_getLast?_encode hnil
    rw [← hfront, List.getLast?_append] at hlast
    exact hne (Option.some.inj hlast).symm

namespace Block

/-- The lines of a block, without the newlines that end them. -/
def lines : Block → List Bytes
  | [] => []
  | [message] => [message.encode]
  | message :: others => (message.encode ++ marker) :: lines others

theorem lines_cons (message : Message) {others : Block} (h : others ≠ []) :
    lines (message :: others) = (message.encode ++ marker) :: lines others := by
  cases others with
  | nil => exact absurd rfl h
  | cons other others => rfl

theorem length_lines (block : Block) : block.lines.length = block.length := by
  fun_induction lines block with
  | case1 => rfl
  | case2 message => rfl
  | case3 message others hothers ih => rw [List.length_cons, List.length_cons, ih]

/-- A block is its lines, each with a newline. -/
theorem encode_eq_lines (block : Block) :
    block.encode = block.lines.flatMap fun line => line ++ [Byte.newline] := by
  fun_induction encode block with
  | case1 => rfl
  | case2 message => exact (List.append_nil _).symm
  | case3 message others hothers ih =>
      rw [lines_cons message hothers, List.flatMap_cons, ← ih]
      simp only [List.append_assoc, List.cons_append, List.nil_append]

theorem getElem?_lines (block : Block) (i : Nat) :
    block.lines[i]? = block[i]?.map fun message =>
      if i + 1 < block.length then message.encode ++ marker else message.encode := by
  fun_induction lines block generalizing i with
  | case1 => rfl
  | case2 message =>
      cases i with
      | zero => rfl
      | succ i => rfl
  | case3 message others hothers ih =>
      have hlength := List.length_pos_iff.mpr hothers
      cases i with
      | zero =>
          rw [List.getElem?_cons_zero, List.getElem?_cons_zero, Option.map_some, List.length_cons,
            if_pos (by omega)]
      | succ i =>
          rw [List.getElem?_cons_succ, List.getElem?_cons_succ, List.length_cons, ih]
          simp only [Nat.add_lt_add_iff_right]

/-- No line of a block holds a newline or a tab. -/
theorem not_mem_of_mem_lines {c : UInt8} (hc : c = Byte.newline ∨ c = Byte.tab) {block : Block}
    {line : Bytes} (h : line ∈ block.lines) : c ∉ line := by
  fun_induction lines block with
  | case1 => cases h
  | case2 message =>
      rw [List.mem_singleton.mp h]
      exact message.not_mem_encode hc
  | case3 message others hothers ih =>
      rcases List.mem_cons.mp h with rfl | hmem
      · intro hmem
        rcases List.mem_append.mp hmem with hmessage | hmarker
        · exact message.not_mem_encode hc hmessage
        · rcases hc with rfl | rfl <;> exact absurd hmarker (by decide)
      · exact ih hmem

/-- What a peer that knows lines only can rely on. -/
structure LineByLine (block : Block) (lines : List Bytes) : Prop where
  written : block.encode = lines.flatMap fun line => line ++ [Byte.newline]
  /-- There is a line for each message, and the marker behind all but the last. -/
  each : ∀ i : Nat, lines[i]? = block[i]?.map fun message =>
    if i + 1 < block.length then message.encode ++ marker else message.encode
  newline_not_mem : ∀ line ∈ lines, Byte.newline ∉ line
  newlines : block.encode.count Byte.newline = block.length
  tab_not_mem : Byte.tab ∉ block.encode
  /-- A line ends in the marker just if it is not the last one. -/
  marked : ∀ i line, lines[i]? = some line → (marker <:+ line ↔ i + 1 < block.length)

/-- Lines without a newline of their own have as many as there are lines. -/
theorem count_newline {lines : List Bytes} (h : ∀ line ∈ lines, Byte.newline ∉ line) :
    (lines.flatMap fun line => line ++ [Byte.newline]).count Byte.newline = lines.length := by
  induction lines with
  | nil => rfl
  | cons line lines ih =>
      have hline := List.count_eq_zero.mpr (h line List.mem_cons_self)
      have hlines := ih fun other hother => h other (List.mem_cons_of_mem line hother)
      rw [List.flatMap_cons, List.count_append, List.count_append, hline, hlines, List.count_singleton_self,
        List.length_cons]
      omega

theorem lineByLine (block : Block) : block.LineByLine block.lines where
  written := block.encode_eq_lines
  each := block.getElem?_lines
  newline_not_mem := fun _ hline => not_mem_of_mem_lines (Or.inl rfl) hline
  newlines := by
    rw [encode_eq_lines, count_newline fun _ hline => not_mem_of_mem_lines (Or.inl rfl) hline,
      length_lines]
  tab_not_mem := by
    rw [encode_eq_lines]
    intro hmem
    obtain ⟨line, hline, htab⟩ := List.mem_flatMap.mp hmem
    rcases List.mem_append.mp htab with hinside | hend
    · exact not_mem_of_mem_lines (Or.inr rfl) hline hinside
    · exact absurd hend (by decide)
  marked := by
    intro i line hline
    rw [getElem?_lines] at hline
    obtain ⟨message, -, rfl⟩ := Option.map_eq_some_iff.mp hline
    split_ifs with hmore
    · exact ⟨fun _ => hmore, fun _ => List.suffix_append _ _⟩
    · exact ⟨fun hmarker => absurd hmarker message.not_marker_suffix_encode, fun h => absurd h hmore⟩

end Block

/-! ## A peer that knows lines only -/

namespace Wire

/-- The text of the message in a line. -/
def textOf (line : Bytes) : Bytes :=
  if marker <:+ line then line.take (line.length - marker.length) else line

/-- Put lines together to blocks, the first of which is begun already: the texts of the messages of each
    block, and those behind the last block. -/
def groupPlainly (texts : List Bytes) : List Bytes → List (List Bytes) × List Bytes
  | [] => ([], texts)
  | line :: lines =>
      if marker <:+ line then groupPlainly (texts ++ [textOf line]) lines
      else ((texts ++ [textOf line]) :: (groupPlainly [] lines).1, (groupPlainly [] lines).2)

/-- What a peer reads that splits bytes at the newlines and looks at the ends of the lines: the blocks, the
    messages of a block that is not over, and the bytes of a line that is not. -/
def readPlainly (bytes : Bytes) : List (List Bytes) × List Bytes × Bytes :=
  let parts := Bytes.splitAt Byte.newline bytes
  let groups := groupPlainly [] parts.dropLast
  (groups.1, groups.2, parts.getLastD [])

/-! ## What the peer finds -/

theorem textOf_marker (text : Bytes) : textOf (text ++ marker) = text := by
  rw [textOf, if_pos (List.suffix_append _ _), List.length_append, Nat.add_sub_cancel, List.take_left]

theorem textOf_encode (message : Message) : textOf message.encode = message.encode := by
  rw [textOf, if_neg message.not_marker_suffix_encode]

/-- The lines of a block are put together to that block, and what follows to others.  Induction on the
    messages; the texts of those of the lines before are there already. -/
theorem groupPlainly_lines (texts : List Bytes) {block : Block} (hne : block ≠ []) (more : List Bytes) :
    groupPlainly texts (block.lines ++ more)
      = ((texts ++ block.map Message.encode) :: (groupPlainly [] more).1, (groupPlainly [] more).2) := by
  fun_induction Block.lines block generalizing texts with
  | case1 => exact absurd rfl hne
  | case2 message =>
      rw [List.cons_append, List.nil_append, groupPlainly, if_neg message.not_marker_suffix_encode,
        textOf_encode]
      rfl
  | case3 message others hothers ih =>
      rw [List.cons_append, groupPlainly, if_pos (List.suffix_append _ _), textOf_marker, ih _ hothers,
        List.append_assoc]
      rfl

theorem groupPlainly_flatMap_lines {blocks : List Block} (h : ∀ block ∈ blocks, block ≠ []) :
    groupPlainly [] (blocks.flatMap Block.lines) = (blocks.map fun block => block.map Message.encode, []) := by
  induction blocks with
  | nil => rfl
  | cons block blocks ih =>
      have hothers := ih fun other hother => h other (List.mem_cons_of_mem block hother)
      rw [List.flatMap_cons, groupPlainly_lines [] (h block List.mem_cons_self), hothers]
      rfl

end Wire

namespace Bytes

theorem splitAt_ne_nil (separator : UInt8) (bytes : Bytes) : splitAt separator bytes ≠ [] := by
  cases bytes with
  | nil => exact List.cons_ne_nil _ _
  | cons b rest =>
      rw [splitAt]
      split
      · split
        · exact List.cons_ne_nil _ _
        · exact List.cons_ne_nil _ _
      · exact List.cons_ne_nil _ _

/-- The first separator ends the first part. -/
theorem splitAt_append {separator : UInt8} {part : Bytes} (h : separator ∉ part) (rest : Bytes) :
    splitAt separator (part ++ separator :: rest) = part :: splitAt separator rest := by
  induction part with
  | nil =>
      rw [List.nil_append, splitAt]
      cases hrest : splitAt separator rest with
      | nil => exact absurd hrest (splitAt_ne_nil separator rest)
      | cons first others => exact if_pos rfl
  | cons b part ih =>
      have hb : b ≠ separator := fun heq => h (heq ▸ List.mem_cons_self)
      rw [List.cons_append, splitAt, ih fun hmem => h (List.mem_cons_of_mem b hmem)]
      exact if_neg hb

/-- Parts that each end in a separator are the parts, and nothing is behind the last separator. -/
theorem splitAt_flatMap {separator : UInt8} {parts : List Bytes} (h : ∀ part ∈ parts, separator ∉ part) :
    splitAt separator (parts.flatMap fun part => part ++ [separator]) = parts ++ [[]] := by
  induction parts with
  | nil => rfl
  | cons part parts ih =>
      rw [List.flatMap_cons, List.append_assoc, List.singleton_append,
        splitAt_append (h part List.mem_cons_self),
        ih fun other hother => h other (List.mem_cons_of_mem part hother), List.cons_append]

end Bytes

namespace Wire

/-- Blocks one after another are their lines one after another. -/
theorem flatMap_encode_eq_lines (blocks : List Block) :
    blocks.flatMap Block.encode
      = (blocks.flatMap Block.lines).flatMap fun line => line ++ [Byte.newline] := by
  rw [List.flatMap_assoc]
  exact congrArg (blocks.flatMap ·) (funext Block.encode_eq_lines)

/-- The text of a message has the words of the message, and no more. -/
theorem tokenize_encode (message : Message) : tokenize message.encode = (message.map Token.word, none) := by
  fun_induction Message.encode message with
  | case1 => exact tokenize_nil
  | case2 word =>
      have hscan := scan_encode_append word [] fun _ b hb => by cases hb
      rw [List.append_nil] at hscan
      rw [tokenize_of_token hscan, tokenize_nil]
      rfl
  | case3 word others hothers ih =>
      rw [tokenize_word word rfl, tokenize_cons_of_isBlank rfl, ih]
      rfl

/-- **No word can make a line.**  Every block is written line by line; the text of a message has the words of
    the message; and a peer that splits at newlines and looks for the marker at the end of each line finds
    these texts, in these blocks, in whatever is written of blocks that have messages. -/
theorem no_line_injected (blocks : List Block) (hblocks : ∀ block ∈ blocks, block ≠ []) :
    (∀ block : Block, block.LineByLine block.lines)
      ∧ (∀ message : Message, tokenize message.encode = (message.map Token.word, none))
      ∧ readPlainly (blocks.flatMap Block.encode)
        = (blocks.map fun block => block.map Message.encode, [], []) := by
  refine ⟨Block.lineByLine, tokenize_encode, ?_⟩
  have hclean : ∀ line ∈ blocks.flatMap Block.lines, Byte.newline ∉ line := by
    intro line hline
    obtain ⟨block, -, hmem⟩ := List.mem_flatMap.mp hline
    exact Block.not_mem_of_mem_lines (Or.inl rfl) hmem
  have hparts : Bytes.splitAt Byte.newline (blocks.flatMap Block.encode)
      = blocks.flatMap Block.lines ++ [[]] := by
    rw [flatMap_encode_eq_lines, Bytes.splitAt_flatMap hclean]
  rw [readPlainly, hparts, List.dropLast_concat, groupPlainly_flatMap_lines hblocks,
    List.getLastD_concat]

/-- A peer that knows lines only reads the awkward blocks. -/
theorem no_line_injected_awkwardBlocks :
    (∀ block ∈ awkwardBlocks, block ≠ [])
      ∧ readPlainly (awkwardBlocks.flatMap Block.encode)
        = (awkwardBlocks.map fun block => block.map Message.encode, [], [])
      ∧ (awkwardBlocks.flatMap Block.encode).count Byte.newline = 6 := by
  have hblocks : ∀ block ∈ awkwardBlocks, block ≠ [] := by decide
  exact ⟨hblocks, (no_line_injected awkwardBlocks hblocks).2.2, by decide⟩

end Wire

end ModuleMapper
