import ModuleMapper.Proofs.Reading

/-!
# Grammar — what an input means, seen as a whole

  The reading of an input needs no reader: make tokens of all of it (`tokenize`), cut these into lines
  (`cutLines`), make a message of every line (`messageOf`), and put the messages of consecutive lines
  into one block as long as a line ends in a semicolon (`groupLines`).  `meaningOf` is the list of blocks
  that this gives, and how the input ends behind them.

  A reader works differently: it takes a line at a time, scans an open quote again after each, and keeps
  a semicolon back until it knows what follows.  `blocks_eq_meaningOf` says that this makes no
  difference, whatever the size of the windows and wherever the stream is interrupted.

  The link is `Draft.ofLine`: the draft behind some lines and a part of the next is a function of these.
-/

namespace ModuleMapper.Wire

/-! ## Lines of tokens -/

/-- The word that a token is inside a line. -/
def Token.literal : Token → Word
  | .newline => [Byte.newline]
  | .continuation => [Byte.semicolon]
  | .word value => value

/-- Cut tokens at the newlines, the first line being begun already: the lines, and the tokens behind the
    last newline. -/
def cutLines (line : List Token) : List Token → List (List Token) × List Token
  | [] => ([], line)
  | .newline :: tokens => (line :: (cutLines [] tokens).1, (cutLines [] tokens).2)
  | token :: tokens => cutLines (line ++ [token]) tokens

/-- Does a line keep its block open?  Only a bare semicolon at its end does. -/
def keepsOpen (line : List Token) : Bool := line.getLast? == some .continuation

/-- The message of a line, without the semicolon that keeps the block open. -/
def messageOf (line : List Token) : Message :=
  (if keepsOpen line then line.dropLast else line).map Token.literal

/-- The blocks of lines, the first block being begun already: the blocks that a line closes, and the
    messages behind the last one. -/
def groupLines (messages : Block) : List (List Token) → List Block × Block
  | [] => ([], messages)
  | line :: lines =>
      if keepsOpen line then groupLines (messages ++ [messageOf line]) lines
      else ((messages ++ [messageOf line]) :: (groupLines [] lines).1, (groupLines [] lines).2)

/-- The blocks of an input, and the failure that ends it.  Without failure an input ends between two
    blocks. -/
def meaningOf (input : Bytes) : List Block × Option Failure :=
  let lines := cutLines [] (tokenize input).1
  let blocks := groupLines [] lines.1
  match (tokenize input).2 with
  | some failure => (blocks.1, some failure)
  | none => (blocks.1, if blocks.2.isEmpty && lines.2.isEmpty then none else some .truncated)

theorem messageOf_of_keepsOpen {line : List Token} (h : keepsOpen line = true) :
    messageOf line = line.dropLast.map Token.literal := by
  rw [messageOf, if_pos h]

theorem messageOf_of_not_keepsOpen {line : List Token} (h : ¬ keepsOpen line = true) :
    messageOf line = line.map Token.literal := by
  rw [messageOf, if_neg h]

/-! ## The draft behind a part of a line -/

namespace Draft

/-- The draft behind some messages and the tokens of a line that is not over. -/
def ofLine (messages : Block) (line : List Token) : Draft where
  messages := messages
  words := messageOf line
  marked := keepsOpen line

theorem ofLine_nil : ofLine [] [] = {} := rfl

/-- A semicolon is a word after all once another token follows it. -/
theorem settledWords_ofLine (messages : Block) (line : List Token) :
    (ofLine messages line).settledWords = line.map Token.literal := by
  show (if keepsOpen line = true then messageOf line ++ [semicolon] else messageOf line) = _
  by_cases hopen : keepsOpen line = true
  · rw [if_pos hopen, messageOf_of_keepsOpen hopen]
    have hlast : line.getLast? = some .continuation := by simpa [keepsOpen] using hopen
    obtain ⟨front, rfl⟩ := List.getLast?_eq_some_iff.mp hlast
    rw [List.dropLast_concat, List.map_append]
    rfl
  · rw [if_neg hopen, messageOf_of_not_keepsOpen hopen]

/-- A token inside a line makes the line longer. -/
theorem feed_ofLine (messages : Block) (line : List Token) {token : Token}
    (htoken : token ≠ .newline) :
    (ofLine messages line).feed token = .open (ofLine messages (line ++ [token])) := by
  cases token with
  | newline => exact absurd rfl htoken
  | continuation =>
      have hopen : keepsOpen (line ++ [Token.continuation]) = true := by simp [keepsOpen]
      have hwords : messageOf (line ++ [Token.continuation]) = line.map Token.literal := by
        rw [messageOf_of_keepsOpen hopen, List.dropLast_concat]
      rw [feed, settledWords_ofLine, ofLine, ofLine, hopen, hwords]
  | word value =>
      have hclosed : keepsOpen (line ++ [Token.word value]) = false := by simp [keepsOpen]
      have hwords : messageOf (line ++ [Token.word value]) = line.map Token.literal ++ [value] := by
        rw [messageOf_of_not_keepsOpen (by simp [hclosed]), List.map_append]
        rfl
      rw [feed, settledWords_ofLine, ofLine, ofLine, hclosed, hwords]

/-- A newline makes a message of the line, and closes the block unless the line keeps it open. -/
theorem feed_newline_ofLine (messages : Block) (line : List Token) :
    (ofLine messages line).feed .newline =
      if keepsOpen line then .open (ofLine (messages ++ [messageOf line]) [])
      else .closed (messages ++ [messageOf line]) := rfl

/-- Only before the first token is a draft empty. -/
theorem isEmpty_ofLine (messages : Block) (line : List Token) :
    (ofLine messages line).isEmpty = (messages.isEmpty && line.isEmpty) := by
  cases line with
  | nil => simp [isEmpty, ofLine, messageOf, keepsOpen]
  | cons token tokens =>
      simp only [isEmpty, ofLine, messageOf, List.isEmpty_cons, Bool.and_false]
      by_cases hopen : keepsOpen (token :: tokens) = true
      · rw [hopen]
        simp
      · rw [if_neg hopen]
        simp

/-- **The draft is a function of the lines.**  Putting tokens together one by one groups the lines into
    which they are cut.  Induction on the tokens, for every draft behind a part of a line. -/
theorem assemble_ofLine (messages : Block) (line tokens : List Token) :
    (ofLine messages line).assemble tokens
      = ((groupLines messages (cutLines line tokens).1).1,
        ofLine (groupLines messages (cutLines line tokens).1).2 (cutLines line tokens).2) := by
  induction tokens generalizing messages line with
  | nil => rfl
  | cons token tokens ih =>
      by_cases htoken : token = .newline
      · subst htoken
        have hfeed := feed_newline_ofLine messages line
        by_cases hopen : keepsOpen line = true
        · rw [if_pos hopen] at hfeed
          rw [assemble_of_open hfeed, ih]
          simp only [cutLines, groupLines, if_pos hopen]
        · rw [if_neg hopen] at hfeed
          rw [assemble_of_closed hfeed, ← ofLine_nil, ih]
          simp only [cutLines, groupLines, if_neg hopen]
      · have hcut : cutLines line (token :: tokens) = cutLines (line ++ [token]) tokens := by
          cases token with
          | newline => exact absurd rfl htoken
          | continuation => rfl
          | word value => rfl
        rw [assemble_of_open (feed_ofLine messages line htoken), ih, hcut]

end Draft

/-- What drafts make of the tokens of an input is its meaning. -/
theorem outcome_tokenize (input : Bytes) : Draft.outcome {} (tokenize input) = meaningOf input := by
  rw [Draft.outcome, ← Draft.ofLine_nil, Draft.assemble_ofLine, meaningOf]
  cases (tokenize input).2 with
  | some failure => rfl
  | none =>
      show (_, if Draft.isEmpty _ then none else some Failure.truncated) = _
      rw [Draft.isEmpty_ofLine]

/-- **A reader reads what its input means.**  Whatever a calm stream serves, calling `readBlock` up to
    the first failure or empty block gives the blocks of the whole input, and ends as the input does. -/
theorem blocks_eq_meaningOf (s : InputStream) (h : s.Calm) :
    ((Reader.blocks { stream := s }).1, (Reader.blocks { stream := s }).2.1) = meaningOf s.rest := by
  rw [(Reader.blocks_of_steady (Reader.Steady.start h)).1, outcome_tokenize]
  rfl

/-- A quoted word over two lines, a semicolon that is a word and one that is none, and a byte that begins
    no token; two bytes at a time, with an interruption inside the quoted word. -/
def raggedStream : InputStream where
  rest := Bytes.ofString "'a\n;' ; ;\nb\n\\c\n"
  chunk := 2
  faults := [⟨3, true, "interrupted"⟩]

theorem blocks_eq_meaningOf_raggedStream :
    raggedStream.Calm
      ∧ ((Reader.blocks { stream := raggedStream }).1, (Reader.blocks { stream := raggedStream }).2.1)
        = meaningOf raggedStream.rest
      ∧ meaningOf raggedStream.rest
        = ([[[Bytes.ofString "a\n;", Bytes.ofString ";"], [Bytes.ofString "b"]]],
          some (.malformed "\\c\n")) := by
  have hcalm : raggedStream.Calm := ⟨by decide, by decide⟩
  exact ⟨hcalm, blocks_eq_meaningOf raggedStream hcalm, by decide +kernel⟩

end ModuleMapper.Wire
