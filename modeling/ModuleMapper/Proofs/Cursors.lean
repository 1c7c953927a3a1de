import ModuleMapper.Proofs.Settling
import ModuleMapper.Proofs.TokenGrammar

/-!
# Cursors — a reader that keeps its buffer and counts in it

  A reader may throw away nothing of what it has taken from its stream until only blanks are left of it, and
  remember the position up to which it has made tokens.  A token is then told by how many bytes it uses up
  (`locate`), and a line is put behind what the buffer holds.

  Such a cursor also keeps a ledger of what it has used up: tokens with the blanks in front of them, and
  blanks that nothing followed yet (`Piece`).  To whoever asks it is the same as a reader that holds the
  bytes from its position on (`Cursor.reader_after`).
-/

namespace ModuleMapper.Wire

/-! ## Tokens by their length -/

/-- What stands at the front of a buffer, where a token says how many bytes it uses up. -/
inductive Located where
  | token (token : Token) (used : Nat)
  | blank
  | unclosed
  | malformed (line : Bytes)
  deriving Repr, DecidableEq

/-- Find the token at the front of a buffer by counting: over the blanks, and then up to its end. -/
def locate (buffer : Bytes) : Located :=
  let start := (buffer.takeWhile Byte.isBlank).length
  match buffer[start]? with
  | none => .blank
  | some b =>
    if b = Byte.newline then .token .newline (start + 1)
    else if b = Byte.semicolon then .token .continuation (start + 1)
    else if b = Byte.quote then
      match closingQuote? buffer (start + 1) with
      | some close =>
        .token (.word (unescape false ((buffer.take close).drop (start + 1))).1) (close + 1)
      | none => .unclosed
    else if Byte.isBare b then
      let size := ((buffer.drop start).takeWhile Byte.isBare).length
      .token (.word ((buffer.drop start).take size)) (start + size)
    else .malformed (lineOf (buffer.drop start))

/-- What is located in a buffer, told by the bytes behind it. -/
def Located.seen (buffer : Bytes) : Located → Scanned
  | .token found used => .token found (buffer.drop used)
  | .blank => .blank
  | .unclosed => .unclosed
  | .malformed line => .malformed line

/-- What is located lies inside the buffer. -/
def Located.Within (buffer : Bytes) : Located → Prop
  | .token _ used => used ≤ buffer.length
  | .blank | .unclosed | .malformed _ => True

section Behind

variable {blanks : Bytes} (hblanks : Blank blanks)

include hblanks

theorem locate_of_blank : locate blanks = .blank := by
  have hall : blanks.takeWhile Byte.isBlank = blanks := List.takeWhile_eq_self_iff.mpr hblanks
  simp only [locate, hall, List.getElem?_eq_none (Nat.le_refl blanks.length)]

/-- Where the blanks end, a byte stands, and what is located hangs on it. -/
theorem locate_append {b : UInt8} (hb : Byte.isBlank b = false) (rest : Bytes) :
    locate (blanks ++ b :: rest)
      = if b = Byte.newline then .token .newline (blanks.length + 1)
        else if b = Byte.semicolon then .token .continuation (blanks.length + 1)
        else if b = Byte.quote then
          match closingQuote? (blanks ++ b :: rest) (blanks.length + 1) with
          | some close =>
            .token (.word (unescape false
              (((blanks ++ b :: rest).take close).drop (blanks.length + 1))).1) (close + 1)
          | none => .unclosed
        else if Byte.isBare b then
          .token (.word ((b :: rest).takeWhile Byte.isBare))
            (blanks.length + ((b :: rest).takeWhile Byte.isBare).length)
        else .malformed (lineOf (b :: rest)) := by
  have hstart : (blanks ++ b :: rest).takeWhile Byte.isBlank = blanks := by
    rw [List.takeWhile_append_of_pos hblanks, List.takeWhile_cons_of_neg (by simp [hb]),
      List.append_nil]
  have hbyte : (blanks ++ b :: rest)[blanks.length]? = some b := by
    rw [List.getElem?_append_right (Nat.le_refl _), Nat.sub_self]
    rfl
  have hword : (b :: rest).take ((b :: rest).takeWhile Byte.isBare).length
      = (b :: rest).takeWhile Byte.isBare :=
    (List.prefix_iff_eq_take.mp (List.takeWhile_prefix Byte.isBare)).symm
  simp only [locate, hstart, hbyte, List.drop_left, hword]

/-- Behind an opening quote the word ends where the body does. -/
theorem locate_quote (bytes : Bytes) :
    locate (blanks ++ Byte.quote :: bytes)
      = match quotedBody? bytes with
        | some (body, _) => .token (.word (unquote body)) (blanks.length + 1 + body.length + 1)
        | none => .unclosed := by
  have hsearch := closingQuote?_append (blanks ++ [Byte.quote]) bytes
  rw [List.append_assoc, List.length_append] at hsearch
  have hclose : closingQuote? (blanks ++ Byte.quote :: bytes) (blanks.length + 1) = _ := hsearch
  rw [locate_append hblanks rfl, if_neg (by decide), if_neg (by decide), if_pos rfl, hclose]
  cases hbody : quotedBody? bytes with
  | none => rfl
  | some found =>
      obtain ⟨units, hunits, hbytes⟩ := quotedBody?_eq_some_iff.mp hbody
      have hinside : ((blanks ++ Byte.quote :: bytes).take (blanks.length + 1 + found.1.length)).drop
          (blanks.length + 1) = found.1 := by
        rw [hbytes, ← hunits, show blanks ++ Byte.quote :: (found.1 ++ Byte.quote :: found.2)
          = (blanks ++ [Byte.quote]) ++ (found.1 ++ Byte.quote :: found.2) by simp]
        have hlength : blanks.length + 1 = (blanks ++ [Byte.quote]).length := by simp
        rw [hlength, List.take_length_add_append, List.drop_left, List.take_left]
      have hword : (unescape false found.1).1 = unquote found.1 := by
        rw [hunits, unescape_writtenAll, unquote_writtenAll]
      simp only [Option.map_some, List.length_singleton, hinside, hword]

end Behind

/-- **Counting finds what scanning finds**, inside the buffer. -/
theorem seen_locate (buffer : Bytes) :
    (locate buffer).seen buffer = scan buffer ∧ (locate buffer).Within buffer := by
  obtain ⟨blanks, bytes, hblanks, rfl, hbytes⟩ : ∃ blanks bytes, Blank blanks
      ∧ buffer = blanks ++ bytes ∧ ∀ b ∈ bytes.head?, Byte.isBlank b = false := by
    refine ⟨buffer.takeWhile Byte.isBlank, buffer.dropWhile Byte.isBlank,
      fun b hb => List.mem_takeWhile_imp hb, List.takeWhile_append_dropWhile.symm, ?_⟩
    intro b hb
    have hstop := List.head?_dropWhile_not Byte.isBlank buffer
    rw [Option.mem_def.mp hb] at hstop
    simpa using hstop
  rw [scan_append_of_blank (scan_of_blank hblanks)]
  cases bytes with
  | nil =>
      rw [List.append_nil, locate_of_blank hblanks]
      exact ⟨rfl, trivial⟩
  | cons b rest =>
      have hb : Byte.isBlank b = false := hbytes b rfl
      rcases Byte.starts b with hblank | rfl | rfl | rfl | hbare | hstray
      · cases hb.symm.trans hblank
      · rw [locate_append hblanks hb, if_pos rfl]
        exact ⟨by simp [Located.seen], by simp [Located.Within]⟩
      · rw [locate_append hblanks hb, if_neg (by decide), if_pos rfl]
        exact ⟨by simp [Located.seen], by simp [Located.Within]⟩
      · rw [locate_quote hblanks]
        cases hbody : quotedBody? rest with
        | none => exact ⟨(scan_quote_of_none hbody).symm, trivial⟩
        | some found =>
            obtain ⟨units, hunits, hrest⟩ := quotedBody?_eq_some_iff.mp hbody
            have hwhole : blanks ++ Byte.quote :: rest
                = (blanks ++ Byte.quote :: (found.1 ++ [Byte.quote])) ++ found.2 := by
              rw [hrest, ← hunits]
              simp
            have hlength : blanks.length + 1 + found.1.length + 1
                = (blanks ++ Byte.quote :: (found.1 ++ [Byte.quote])).length := by
              simp only [List.length_append, List.length_cons, List.length_nil]
              omega
            rw [scan_quote_of_some hbody]
            refine ⟨?_, ?_⟩
            · simp only [Located.seen, hwhole, hlength, List.drop_left]
            · show _ ≤ _
              rw [hwhole, hlength]
              exact (List.prefix_append _ _).length_le
      · rw [locate_append hblanks hb, if_neg (Byte.ne_of_isBare hbare rfl),
          if_neg (Byte.ne_of_isBare hbare rfl), if_neg (Byte.ne_of_isBare hbare rfl), if_pos hbare,
          scan_cons_of_isBare hbare]
        have hwhole : blanks ++ b :: rest
            = (blanks ++ (b :: rest).takeWhile Byte.isBare) ++ (b :: rest).dropWhile Byte.isBare := by
          rw [List.append_assoc, List.takeWhile_append_dropWhile]
        refine ⟨?_, ?_⟩
        · simp only [Located.seen]
          rw [hwhole, ← List.length_append, List.drop_left]
        · show _ ≤ _
          rw [hwhole, ← List.length_append]
          exact (List.prefix_append _ _).length_le
      · rw [locate_append hblanks hb, scan_cons_of_isStray hstray]
        simp only [Byte.isStray, Bool.not_eq_true', Bool.or_eq_false_iff, beq_eq_false_iff_ne] at hstray
        obtain ⟨⟨⟨⟨-, hnewline⟩, hsemicolon⟩, hquote⟩, hbare⟩ := hstray
        simp only [if_neg hnewline, if_neg hsemicolon, if_neg hquote, hbare, if_false,
          Bool.false_eq_true]
        exact ⟨rfl, trivial⟩

/-! ## Cursors -/

/-- What is used up at once. -/
inductive Piece where
  /-- A token, with the blanks in front of it. -/
  | token (bytes : Bytes) (token : Token)
  /-- Blanks that no token has followed yet. -/
  | blanks (bytes : Bytes)
  deriving Repr, DecidableEq

/-- The bytes of a piece. -/
def Piece.bytes : Piece → Bytes
  | token bytes _ | blanks bytes => bytes

/-- The token of a piece. -/
def Piece.token? : Piece → Option Token
  | token _ found => some found
  | blanks _ => none

/-- A reader that keeps what it has taken from its stream, and counts in it. -/
structure Cursor where
  stream : InputStream
  /-- What was taken from the stream since only blanks were left. -/
  buffer : Bytes := []
  /-- How much of the buffer has been used up. -/
  position : Nat := 0
  /-- Has the stream said that it ends? -/
  ended : Bool := false
  /-- Has the iteration over the blocks finished? -/
  finished : Bool := false
  /-- What has been used up, from the start. -/
  used : List Piece := []
  deriving Repr, DecidableEq

namespace Cursor

/-- What is held and not used up. -/
def ahead (c : Cursor) : Bytes := c.buffer.drop c.position

/-- What a cursor is to others. -/
def reader (c : Cursor) : Reader where
  stream := c.stream
  pending := c.ahead
  ended := c.ended
  finished := c.finished

/-- Use up a token. -/
def advance (c : Cursor) (token : Token) (used : Nat) : Cursor :=
  { c with position := c.position + used, used := c.used ++ [.token (c.ahead.take used) token] }

/-- Use up blanks, and start the buffer anew. -/
def clear (c : Cursor) : Cursor :=
  { c with buffer := [], position := 0, used := c.used ++ [.blanks c.ahead] }

/-- Put what a line takes from the stream behind what the buffer holds. -/
def took (c : Cursor) : Cursor :=
  { c with stream := c.stream.readLine.stream, buffer := c.buffer ++ c.stream.readLine.taken }

/-- Take the next line from the stream.  The answer is whether there was more to take. -/
def fill (c : Cursor) : Except Failure Bool × Cursor :=
  if c.ended then (.ok false, c)
  else
    match c.stream.readLine.fault with
    | some fault => (.error (.stream (.note fault.text)), c.took)
    | none =>
      if c.stream.readLine.taken = [] then (.ok false, { c.took with ended := true })
      else (.ok true, c.took)

/-- What comes of taking a line: nothing, behind the end of the stream; a fault, and what was taken in front
    of it; the end of the stream; or a line. -/
inductive Fills (c : Cursor) : Except Failure Bool × Cursor → Prop where
  | nothing : c.ended = true → Fills c (.ok false, c)
  | fault {fault : Fault} : c.ended = false → c.stream.readLine.fault = some fault →
      Fills c (.error (.stream (.note fault.text)), c.took)
  | ended : c.ended = false → c.stream.readLine.fault = none → c.stream.readLine.taken = [] →
      Fills c (.ok false, { c.took with ended := true })
  | line : c.ended = false → c.stream.readLine.fault = none → c.stream.readLine.taken ≠ [] →
      Fills c (.ok true, c.took)

theorem fills_fill (c : Cursor) : Fills c c.fill := by
  unfold fill
  cases hended : c.ended with
  | true => exact .nothing hended
  | false =>
      cases hfault : c.stream.readLine.fault with
      | some fault => exact .fault hended hfault
      | none =>
          by_cases htaken : c.stream.readLine.taken = []
          · simp only [htaken, if_true]
            exact .ended hended hfault htaken
          · simp only [htaken, if_false]
            exact .line hended hfault htaken

/-- A line that is taken is gone from the stream. -/
theorem rest_fill_lt {c : Cursor} (h : c.fill.1 = .ok true) :
    c.fill.2.stream.rest.length < c.stream.rest.length := by
  have hfills := fills_fill c
  generalize c.fill = answer at h hfills
  cases hfills with
  | nothing _ => cases h
  | fault _ _ => cases h
  | ended _ _ _ => cases h
  | line _ _ htaken =>
      have hlength := congrArg List.length (InputStream.readLine_append c.stream)
      have hpositive := List.length_pos_iff.mpr htaken
      rw [List.length_append] at hlength
      show c.stream.readLine.stream.rest.length < c.stream.rest.length
      omega

/-- What a line takes from the stream comes behind what is held. -/
theorem reader_took {c : Cursor} (h : c.position ≤ c.buffer.length) :
    c.took.reader = { c.reader with
      stream := c.stream.readLine.stream
      pending := c.reader.pending ++ c.stream.readLine.taken } := by
  have hahead : c.took.ahead = c.ahead ++ c.stream.readLine.taken := List.drop_append_of_le_length h
  show Reader.mk c.stream.readLine.stream c.took.ahead c.ended c.finished = _
  rw [hahead]
  rfl

/-- Where the position lies inside the buffer, taking a line is the same for a cursor and for its reader. -/
theorem reader_fill {c : Cursor} (h : c.position ≤ c.buffer.length) :
    c.reader.readLine = (c.fill.1, c.fill.2.reader) := by
  have hfills := fills_fill c
  rw [Reader.readLine]
  generalize c.fill = answer at hfills
  cases hfills with
  | nothing hended => rw [if_pos (show c.reader.ended = true from hended)]
  | @fault fault hended hfault =>
      have hfault' : c.reader.stream.readLine.fault = some fault := hfault
      rw [if_neg (show ¬ c.reader.ended = true by simp [reader, hended])]
      simp only [hfault', reader_took h]
      rfl
  | ended hended hfault htaken =>
      have hfault' : c.reader.stream.readLine.fault = none := hfault
      have htaken' : c.reader.stream.readLine.taken = [] := htaken
      have hreader : Cursor.reader { c.took with ended := true } = { c.took.reader with ended := true } := rfl
      rw [if_neg (show ¬ c.reader.ended = true by simp [reader, hended])]
      simp only [hfault', if_pos htaken', hreader, reader_took h]
      rfl
  | line hended hfault htaken =>
      have hfault' : c.reader.stream.readLine.fault = none := hfault
      have htaken' : ¬ c.reader.stream.readLine.taken = [] := htaken
      rw [if_neg (show ¬ c.reader.ended = true by simp [reader, hended])]
      simp only [hfault', if_neg htaken', reader_took h]
      rfl

/-- The next token, or none when the stream has ended. -/
def readToken (c : Cursor) : Except Failure (Option Token) × Cursor :=
  match locate c.ahead with
  | .token token used => (.ok (some token), c.advance token used)
  | .malformed line => (.error (.malformed (Text.lossy line)), c)
  | .blank =>
    match _ : c.clear.fill.1 with
    | .error failure => (.error failure, c.clear.fill.2)
    | .ok false => (.ok none, c.clear.fill.2)
    | .ok true => readToken c.clear.fill.2
  | .unclosed =>
    match _ : c.fill.1 with
    | .error failure => (.error failure, c.fill.2)
    | .ok false => (.error .truncated, c.fill.2)
    | .ok true => readToken c.fill.2
termination_by c.stream.rest.length
decreasing_by
  · exact rest_fill_lt (c := c.clear) (by assumption)
  · exact rest_fill_lt (by assumption)

/-- Inside an open quote the position lies inside the buffer. -/
theorem position_le_of_unclosed {c : Cursor} (h : locate c.ahead = .unclosed) :
    c.position ≤ c.buffer.length := by
  by_contra hbeyond
  have hnil : c.ahead = [] := List.drop_eq_nil_of_le (by omega)
  rw [hnil] at h
  cases h

theorem reader_clear (c : Cursor) : c.clear.reader = { c.reader with pending := [] } := rfl

theorem reader_advance (c : Cursor) (token : Token) (used : Nat) :
    (c.advance token used).reader = { c.reader with pending := c.reader.pending.drop used } := by
  show Reader.mk c.stream (c.buffer.drop (c.position + used)) c.ended c.finished
    = Reader.mk c.stream ((c.buffer.drop c.position).drop used) c.ended c.finished
  rw [List.drop_drop]

theorem scan_reader (c : Cursor) : scan c.reader.pending = (locate c.ahead).seen c.ahead :=
  (seen_locate c.ahead).1.symm

/-- **A cursor delivers the tokens of its reader.**  Induction on the lines taken: where one is taken, the
    position lies inside the buffer. -/
theorem reader_readToken (c : Cursor) : c.reader.readToken = (c.readToken.1, c.readToken.2.reader) := by
  have hscan := scan_reader c
  fun_induction readToken c with
  | case1 c token used hlocate =>
      rw [hlocate] at hscan
      rw [Reader.readToken_of_token hscan, reader_advance]
      rfl
  | case2 c line hlocate =>
      rw [hlocate] at hscan
      exact Reader.settled_of_malformed hscan
  | case3 c hlocate failure hline | case4 c hlocate hline =>
      rw [hlocate] at hscan
      rw [Reader.readToken_of_blank hscan, ← reader_clear, reader_fill (c := c.clear) (Nat.zero_le _)]
      simp only [hline]
  | case5 c hlocate hline ih =>
      rw [hlocate] at hscan
      rw [Reader.readToken_of_blank hscan, ← reader_clear, reader_fill (c := c.clear) (Nat.zero_le _)]
      simp only [hline]
      exact ih (scan_reader _)
  | case6 c hlocate failure hline | case7 c hlocate hline =>
      have hinside := position_le_of_unclosed hlocate
      rw [hlocate] at hscan
      rw [Reader.readToken_of_unclosed hscan, reader_fill hinside]
      simp only [hline]
  | case8 c hlocate hline ih =>
      have hinside := position_le_of_unclosed hlocate
      rw [hlocate] at hscan
      rw [Reader.readToken_of_unclosed hscan, reader_fill hinside]
      simp only [hline]
      exact ih (scan_reader _)

/-- Go on with a draft until it is a block. -/
def complete (draft : Draft) (c : Cursor) : Except Failure Block × Cursor :=
  match _ : c.readToken.1 with
  | .error failure => (.error failure, c.readToken.2)
  | .ok none => (if draft.isEmpty then .ok [] else .error .truncated, c.readToken.2)
  | .ok (some token) =>
    match draft.feed token with
    | .closed block => (.ok block, c.readToken.2)
    | .open draft => complete draft c.readToken.2
termination_by c.reader.remaining
decreasing_by
  have hsame := reader_readToken c
  have htoken : c.reader.readToken.1 = .ok (some token) := by rw [hsame]; assumption
  have hless := Reader.remaining_readToken_lt htoken
  rw [hsame] at hless
  exact hless

/-- The next block of the stream; empty when the stream ends before it starts. -/
def readBlock (c : Cursor) : Except Failure Block × Cursor := complete {} c

/-- Step of an iteration over the blocks. -/
def iterate (c : Cursor) : Option (Except Failure Block) × Cursor :=
  if c.finished then (none, c)
  else
    match c.readBlock with
    | (.ok [], c) => (none, { c with finished := true })
    | (.ok block, c) => (some (.ok block), c)
    | (.error failure, c) => (some (.error failure), { c with finished := true })

/-- A cursor delivers the blocks of its reader.  Induction on the tokens. -/
theorem reader_complete (draft : Draft) (c : Cursor) :
    Reader.complete draft c.reader = ((complete draft c).1, (complete draft c).2.reader) := by
  rw [Reader.complete_eq, reader_readToken]
  fun_induction complete draft c with
  | case1 draft c failure htoken => simp only [htoken]
  | case2 draft c htoken => simp only [htoken]
  | case3 draft c token htoken block hfeed => simp only [htoken, hfeed]
  | case4 draft c token htoken next hfeed ih =>
      simp only [htoken, hfeed]
      rw [Reader.complete_eq, reader_readToken]
      exact ih

theorem reader_readBlock (c : Cursor) : c.reader.readBlock = (c.readBlock.1, c.readBlock.2.reader) :=
  reader_complete {} c

theorem reader_iterate (c : Cursor) : c.reader.iterate = (c.iterate.1, c.iterate.2.reader) := by
  rw [Reader.iterate, iterate, reader_readBlock]
  by_cases hfinished : c.finished = true
  · rw [if_pos hfinished, if_pos (show c.reader.finished = true from hfinished)]
  · rw [if_neg hfinished, if_neg (show ¬ c.reader.finished = true from hfinished)]
    obtain ⟨outcome, next⟩ := c.readBlock
    cases outcome with
    | error failure => rfl
    | ok block =>
        cases block with
        | nil => rfl
        | cons message others => rfl

/-! ## Asking a cursor -/

/-- Ask a cursor once. -/
def ask (c : Cursor) : Reader.Ask → Reader.Answer × Cursor
  | .block => (.block c.readBlock.1, c.readBlock.2)
  | .step => (.step c.iterate.1, c.iterate.2)

/-- The cursor behind some asks. -/
def after : List Reader.Ask → Cursor → Cursor
  | [], c => c
  | ask :: asks, c => after asks (c.ask ask).2

/-- What a cursor answers to some asks. -/
def answers : List Reader.Ask → Cursor → List Reader.Answer
  | [], _ => []
  | ask :: asks, c => (c.ask ask).1 :: answers asks (c.ask ask).2

theorem reader_ask (c : Cursor) (ask : Reader.Ask) :
    c.reader.ask ask = ((c.ask ask).1, (c.ask ask).2.reader) := by
  cases ask with
  | block => rw [Reader.ask, reader_readBlock, Cursor.ask]
  | step => rw [Reader.ask, reader_iterate, Cursor.ask]

/-- **To whoever asks, a cursor is its reader**, as often as it is asked. -/
theorem reader_after (asks : List Reader.Ask) (c : Cursor) :
    Reader.answers asks c.reader = answers asks c
      ∧ Reader.after asks c.reader = (after asks c).reader := by
  induction asks generalizing c with
  | nil => exact ⟨rfl, rfl⟩
  | cons ask asks ih =>
      obtain ⟨hanswers, hafter⟩ := ih (c.ask ask).2
      rw [Reader.answers, Reader.after, answers, after, reader_ask, hanswers, hafter]
      exact ⟨rfl, rfl⟩

end Cursor

end ModuleMapper.Wire
