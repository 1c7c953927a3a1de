import ModuleMapper.Proofs.Conservation
import ModuleMapper.Proofs.Endings

/-!
# Rounds — how often a reader goes round

  Reading is made of four loops, one inside the other: a line is taken out of windows of the stream, what is
  held is scanned again behind each token and each line, block after block is read, and block after block is
  served.  Here each loop is told by its rounds, and goes round only so often (`within`).  A round either
  is the last, or lowers an effort and leaves what the loop comes to as it is (`Advances`).

  The effort of a line is what the stream can still answer.  That of a scan counts what the stream has left
  twice and what is held once: a token makes the latter smaller, and a line moves bytes from the one to the
  other.  The effort of the two loops over blocks is the number of newlines that are left, for a block uses
  up a newline for each of its messages (`newlines_readBlock`).
-/

namespace ModuleMapper

/-! ## Loops by their rounds -/

section Within

variable {α β : Type}

/-- Go round a loop, but only so often: nothing comes of a loop that would have to go round again. -/
def within (round : α → α ⊕ β) : Nat → α → Option β
  | 0, _ => none
  | often + 1, a =>
    match round a with
    | .inl next => within round often next
    | .inr result => some result

/-- A round is the last one and gives the result, or it leaves less to do for the same result. -/
def Advances (effort : α → Nat) (result : α → β) (a : α) : α ⊕ β → Prop
  | .inl next => effort next < effort a ∧ result next = result a
  | .inr last => last = result a

variable {round : α → α ⊕ β} {effort : α → Nat} {result : α → β}

/-- **A loop whose rounds advance comes to its result** in one round more than its effort says.  Induction
    on the rounds that are allowed. -/
theorem within_of_advances (h : ∀ a, Advances effort result a (round a)) (a : α) :
    within round (effort a + 1) a = some (result a) := by
  suffices hall : ∀ often a, effort a < often → within round often a = some (result a) from
    hall _ a (Nat.lt_succ_self _)
  intro often
  induction often with
  | zero =>
      intro a hless
      exact absurd hless (Nat.not_lt_zero _)
  | succ often ih =>
      intro a hless
      have hround := h a
      rw [within]
      cases hnext : round a with
      | inl next =>
          rw [hnext] at hround
          obtain ⟨hlower, hsame⟩ := hround
          show within round often next = some (result a)
          rw [ih next (Nat.lt_of_lt_of_le hlower (Nat.le_of_lt_succ hless)), hsame]
      | inr last =>
          rw [hnext] at hround
          show some last = some (result a)
          rw [show last = result a from hround]

end Within

/-! ## Taking a line -/

namespace InputStream

variable {s : InputStream}

/-- Bytes that were taken come in front of what the line takes. -/
def LineRead.behind (taken : Bytes) (line : LineRead) : LineRead :=
  { line with taken := taken ++ line.taken }

theorem LineRead.behind_behind (first second : Bytes) (line : LineRead) :
    (line.behind second).behind first = line.behind (first ++ second) := by
  show LineRead.mk (first ++ (second ++ line.taken)) line.fault line.stream
    = LineRead.mk (first ++ second ++ line.taken) line.fault line.stream
  rw [List.append_assoc]

/-- A round of taking a line: the stream is asked once. -/
def lineRound : Bytes × InputStream → (Bytes × InputStream) ⊕ LineRead
  | (taken, s) =>
    match s.ask with
    | (.fault fault, asked) =>
      if fault.interruption then .inl (taken, asked) else .inr ⟨taken, some fault, asked⟩
    | (.window size, asked) =>
      if (asked.takeLine size).1 = [] ∨ (asked.takeLine size).1.getLast? = some Byte.newline then
        .inr ⟨taken ++ (asked.takeLine size).1, none, (asked.takeLine size).2⟩
      else .inl (taken ++ (asked.takeLine size).1, (asked.takeLine size).2)

theorem readLine_of_fault {fault : Fault} (h : s.ask.1 = .fault fault) :
    s.readLine = if fault.interruption then s.ask.2.readLine else ⟨[], some fault, s.ask.2⟩ := by
  rw [readLine]
  split <;> simp_all

theorem readLine_of_window {size : Nat} (h : s.ask.1 = .window size) :
    s.readLine =
      if (s.ask.2.takeLine size).1 = [] ∨ (s.ask.2.takeLine size).1.getLast? = some Byte.newline then
        ⟨(s.ask.2.takeLine size).1, none, (s.ask.2.takeLine size).2⟩
      else (s.ask.2.takeLine size).2.readLine.behind (s.ask.2.takeLine size).1 := by
  rw [readLine]
  split
  · next hfault => cases h.symm.trans hfault
  · next found hwindow =>
      obtain rfl : size = found := Answer.window.inj (h.symm.trans hwindow)
      by_cases hlast : (s.ask.2.takeLine size).1 = []
          ∨ (s.ask.2.takeLine size).1.getLast? = some Byte.newline
      · simp only [dif_pos hlast, if_pos hlast]
      · simp only [dif_neg hlast, if_neg hlast]
        rfl

/-- A window takes bytes, or an interruption is met: either leaves less of the stream. -/
theorem lineRound_advances (a : Bytes × InputStream) :
    Advances (fun a => a.2.remaining) (fun a => a.2.readLine.behind a.1) a (lineRound a) := by
  obtain ⟨taken, s⟩ := a
  obtain ⟨answer, asked⟩ : ∃ answer, s.ask.1 = answer := ⟨_, rfl⟩
  rw [lineRound, show s.ask = (s.ask.1, s.ask.2) from rfl, asked]
  cases answer with
  | fault fault =>
      by_cases hagain : fault.interruption = true
      · simp only [if_pos hagain]
        refine ⟨remaining_ask_lt_of_fault asked, ?_⟩
        show s.ask.2.readLine.behind taken = s.readLine.behind taken
        rw [readLine_of_fault asked, if_pos hagain]
      · simp only [if_neg hagain]
        show LineRead.mk taken (some fault) s.ask.2 = s.readLine.behind taken
        rw [readLine_of_fault asked, if_neg hagain, LineRead.behind, List.append_nil]
  | window size =>
      by_cases hlast : (s.ask.2.takeLine size).1 = []
          ∨ (s.ask.2.takeLine size).1.getLast? = some Byte.newline
      · simp only [if_pos hlast]
        show LineRead.mk (taken ++ (s.ask.2.takeLine size).1) none (s.ask.2.takeLine size).2
          = s.readLine.behind taken
        rw [readLine_of_window asked, if_pos hlast]
        rfl
      · simp only [if_neg hlast]
        have hsame : s.ask.2.remaining = s.remaining := by
          rw [remaining, remaining, rest_ask, faults_ask_of_window asked]
        refine ⟨?_, ?_⟩
        · show (s.ask.2.takeLine size).2.remaining < s.remaining
          rw [← hsame]
          exact remaining_takeLine_lt (fun hnil => hlast (Or.inl hnil))
        · show (s.ask.2.takeLine size).2.readLine.behind (taken ++ (s.ask.2.takeLine size).1)
            = s.readLine.behind taken
          rw [readLine_of_window asked, if_neg hlast, LineRead.behind_behind]

end InputStream

namespace Wire.Reader

variable {r : Reader}

/-! ## Scanning what is held -/

/-- A round of putting a block together: what is held is scanned once. -/
def scanRound : Draft × Reader → (Draft × Reader) ⊕ (Except Failure Block × Reader)
  | (draft, r) =>
    match scan r.pending with
    | .token token rest =>
      match draft.feed token with
      | .closed block => .inr (.ok block, { r with pending := rest })
      | .open next => .inl (next, { r with pending := rest })
    | .malformed line => .inr (.error (.malformed (Text.lossy line)), r)
    | .blank =>
      match Reader.readLine { r with pending := [] } with
      | (.error failure, last) => .inr (.error failure, last)
      | (.ok false, last) => .inr (if draft.isEmpty then .ok [] else .error .truncated, last)
      | (.ok true, next) => .inl (draft, next)
    | .unclosed =>
      match r.readLine with
      | (.error failure, last) => .inr (.error failure, last)
      | (.ok false, last) => .inr (.error .truncated, last)
      | (.ok true, next) => .inl (draft, next)

/-- What is left to do between two scans: every byte is taken, and then made part of a token. -/
def effort (r : Reader) : Nat := r.pending.length + 2 * r.stream.rest.length

/-- A line that is taken moves bytes from the stream to what is held. -/
theorem effort_readLine_lt {next : Reader} (h : r.readLine = (.ok true, next)) :
    next.effort < r.effort := by
  have hline : r.readLine.1 = .ok true := congrArg Prod.fst h
  have hnext : r.readLine.2 = next := congrArg Prod.snd h
  have hless := rest_readLine_lt hline
  have hsame := remaining_readLine r
  rw [hnext] at hless hsame
  simp only [remaining, effort] at *
  omega

/-- A token makes what is held smaller, and a line that follows makes the stream smaller. -/
theorem scanRound_advances (a : Draft × Reader) :
    Advances (fun a => a.2.effort) (fun a => complete a.1 a.2) a (scanRound a) := by
  obtain ⟨draft, r⟩ := a
  rw [scanRound]
  cases hscan : scan r.pending with
  | token token rest =>
      have hcomplete := complete_eq draft r
      rw [readToken_of_token hscan] at hcomplete
      cases hfeed : draft.feed token with
      | closed block =>
          simp only [hfeed] at hcomplete ⊢
          exact hcomplete.symm
      | «open» next =>
          simp only [hfeed] at hcomplete ⊢
          refine ⟨?_, hcomplete.symm⟩
          have hless := scan_rest_lt hscan
          show rest.length + 2 * r.stream.rest.length < r.pending.length + 2 * r.stream.rest.length
          omega
  | malformed line =>
      have hcomplete := complete_eq draft r
      rw [settled_of_malformed hscan] at hcomplete
      exact hcomplete.symm
  | blank =>
      have hcomplete := complete_eq draft r
      rw [readToken_of_blank hscan] at hcomplete
      generalize hline : Reader.readLine { r with pending := [] } = line at hcomplete
      obtain ⟨outcome, next⟩ := line
      cases outcome with
      | error failure => exact hcomplete.symm
      | ok more =>
          cases more with
          | false => exact hcomplete.symm
          | true =>
              refine ⟨?_, (complete_eq draft next).trans hcomplete.symm⟩
              have hless := effort_readLine_lt hline
              simp only [effort, List.length_nil] at *
              omega
  | unclosed =>
      have hcomplete := complete_eq draft r
      rw [readToken_of_unclosed hscan] at hcomplete
      generalize hline : r.readLine = line at hcomplete
      obtain ⟨outcome, next⟩ := line
      cases outcome with
      | error failure => exact hcomplete.symm
      | ok more =>
          cases more with
          | false => exact hcomplete.symm
          | true => exact ⟨effort_readLine_lt hline, (complete_eq draft next).trans hcomplete.symm⟩

end Wire.Reader

namespace Wire

/-! ## A newline for each message -/

/-- What tokens make has no more messages than there are newlines among them, and messages before. -/
theorem Draft.length_flatten_assemble (draft : Draft) (tokens : List Token) :
    (draft.assemble tokens).1.flatten.length ≤ draft.messages.length + tokens.count .newline := by
  induction tokens generalizing draft with
  | nil => exact Nat.zero_le _
  | cons token tokens ih =>
      cases hfeed : draft.feed token with
      | «open» next =>
          have hmessages : next.messages.length ≤ draft.messages.length + [token].count .newline := by
            cases token with
            | newline =>
                simp only [Draft.feed] at hfeed
                split at hfeed
                · injection hfeed with hnext
                  rw [← hnext]
                  exact Nat.le_of_eq List.length_append
                · cases hfeed
            | continuation | word _ =>
                injection hfeed with hnext
                rw [← hnext]
                exact Nat.le_refl _
          have hlater := ih next
          rw [Draft.assemble_of_open hfeed]
          rw [List.count_singleton] at hmessages
          rw [List.count_cons]
          omega
      | closed block =>
          obtain ⟨rfl, hblock⟩ : token = .newline ∧ block.length = draft.messages.length + 1 := by
            cases token with
            | newline =>
                simp only [Draft.feed] at hfeed
                split at hfeed
                · cases hfeed
                · injection hfeed with hblock
                  exact ⟨rfl, by rw [← hblock]; exact List.length_append⟩
            | continuation | word _ => cases hfeed
          have hlater := ih {}
          rw [Draft.assemble_of_closed hfeed, List.flatten_cons, List.length_append, List.count_cons_self]
          simp only [List.length_nil] at hlater
          omega

/-- A newline among the tokens stands for a newline among the bytes. -/
theorem Piece.count_newline {pieces : List Piece} (h : ∀ piece ∈ pieces, piece.Sound) :
    (pieces.filterMap Piece.token?).count .newline
      ≤ (pieces.flatMap Piece.bytes).count Byte.newline := by
  induction pieces with
  | nil => exact Nat.le_refl _
  | cons piece pieces ih =>
      obtain ⟨hsound, hothers⟩ := List.forall_mem_cons.mp h
      have hlater := ih hothers
      rw [List.flatMap_cons, List.count_append]
      cases piece with
      | blanks bytes =>
          show (pieces.filterMap Piece.token?).count .newline ≤ _
          omega
      | token bytes found =>
          show (found :: pieces.filterMap Piece.token?).count .newline
            ≤ bytes.count Byte.newline + _
          have hfound : [found].count .newline ≤ bytes.count Byte.newline := by
            obtain ⟨blanks, spelled, -, hspells, rfl⟩ := hsound
            cases hspells with
            | newline =>
                rw [List.count_append]
                exact Nat.le_add_left _ _
            | continuation | bare _ _ | quoted _ => exact Nat.zero_le _
          rw [List.count_singleton] at hfound
          rw [List.count_cons]
          omega

namespace Cursor

/-- The cursor that a reader is when it starts to count. -/
def ofReader (r : Reader) : Cursor where
  stream := r.stream
  buffer := r.pending
  ended := r.ended
  finished := r.finished

theorem keeps_ofReader (r : Reader) : (ofReader r).Keeps r.input :=
  ⟨Nat.zero_le _, rfl, List.forall_mem_nil _⟩

end Cursor

namespace Reader

/-- **A block uses up a newline for each of its messages**, from the front of what the reader has left. -/
theorem newlines_readBlock (r : Reader) :
    ∃ used, r.input = used ++ r.readBlock.2.input
      ∧ ∀ block, r.readBlock.1 = .ok block → block.length ≤ used.count Byte.newline := by
  obtain ⟨tokens, htokens, hblocks⟩ := Cursor.tokens_complete {} (Cursor.ofReader r)
  have hkeeps := (Cursor.keeps_ofReader r).steps (Cursor.steps_complete {} (Cursor.ofReader r))
  have hread : r.readBlock = (Cursor.complete {} (Cursor.ofReader r)).map id Cursor.reader :=
    Cursor.reader_readBlock (Cursor.ofReader r)
  refine ⟨(Cursor.complete {} (Cursor.ofReader r)).2.used.flatMap Piece.bytes, ?_, ?_⟩
  · rw [hread, ← hkeeps.whole, List.append_assoc]
    rfl
  · intro block hblock
    have hanswer : (Cursor.complete {} (Cursor.ofReader r)).1 = .ok block := by
      rw [← hblock, hread]
      rfl
    have hused : (Cursor.complete {} (Cursor.ofReader r)).2.used.filterMap Piece.token? = tokens :=
      htokens
    calc
      block.length = (Draft.assemble {} tokens).1.flatten.length := by
        rw [hblocks, hanswer, Answer.flatten_delivered]
      _ ≤ tokens.count .newline :=
        (Draft.length_flatten_assemble {} tokens).trans (Nat.le_of_eq (Nat.zero_add _))
      _ ≤ _ := hused ▸ Piece.count_newline hkeeps.sound

/-! ## Block after block -/

variable {r : Reader}

/-- The newlines that are left. -/
def newlines (r : Reader) : Nat := r.input.count Byte.newline

theorem newlines_readBlock_lt {block : Block} (h : r.readBlock.1 = .ok block) (hne : block ≠ []) :
    r.readBlock.2.newlines < r.newlines := by
  obtain ⟨used, hinput, hmessages⟩ := newlines_readBlock r
  have hblock := hmessages block h
  have hpositive := List.length_pos_iff.mpr hne
  rw [newlines, newlines, hinput, List.count_append]
  omega

/-- A round of reading all blocks: one is read, and comes behind those before it. -/
def blockRound : List Block × Reader →
    (List Block × Reader) ⊕ (List Block × Option Failure × Reader)
  | (earlier, r) =>
    match r.readBlock with
    | (.error failure, last) => .inr (earlier, some failure, last)
    | (.ok [], last) => .inr (earlier, none, last)
    | (.ok block, next) => .inl (earlier ++ [block], next)

theorem blockRound_advances (a : List Block × Reader) :
    Advances (fun a => a.2.newlines) (fun a => (a.1 ++ a.2.blocks.1, a.2.blocks.2)) a (blockRound a) := by
  obtain ⟨earlier, r⟩ := a
  obtain ⟨outcome, houtcome⟩ : ∃ outcome, r.readBlock.1 = outcome := ⟨_, rfl⟩
  rw [blockRound, show r.readBlock = (r.readBlock.1, r.readBlock.2) from rfl, houtcome]
  cases outcome with
  | error failure =>
      show (earlier, some failure, r.readBlock.2) = (earlier ++ r.blocks.1, r.blocks.2)
      rw [blocks_of_error houtcome, List.append_nil]
  | ok block =>
      cases block with
      | nil =>
          show (earlier, none, r.readBlock.2) = (earlier ++ r.blocks.1, r.blocks.2)
          rw [blocks_of_end houtcome, List.append_nil]
      | cons message others =>
          have hne : message :: others ≠ [] := List.cons_ne_nil _ _
          refine ⟨newlines_readBlock_lt houtcome hne, ?_⟩
          show (earlier ++ [message :: others] ++ r.readBlock.2.blocks.1, r.readBlock.2.blocks.2)
            = (earlier ++ r.blocks.1, r.blocks.2)
          rw [blocks_of_block houtcome hne, List.append_assoc, List.singleton_append]

end Reader

end Wire

/-! ## Serving block after block -/

namespace Connection

variable {σ ω : Type} [Sink ω] {mapper : Mapper σ} {c : Connection σ ω}

/-- A round of a run: a block is read, and replied to. -/
def exchangeRound (mapper : Mapper σ) (c : Connection σ ω) :
    Connection σ ω ⊕ (Except Failure Unit × Connection σ ω) :=
  match exchange mapper c with
  | (.ok true, next) => .inl next
  | (.ok false, last) => .inr (.ok (), last.enter .closed)
  | (.error failure, last) => .inr (.error failure, last.enter .failed)

/-- A block that is served has used up newlines. -/
theorem newlines_exchange_lt (h : (exchange mapper c).1 = .ok true) :
    (exchange mapper c).2.reader.newlines < c.reader.newlines := by
  cases hread : c.reader.readBlock.1 with
  | error failure =>
      rw [exchange_of_error hread] at h
      cases h
  | ok block =>
      by_cases hne : block = []
      · subst hne
        rw [exchange_of_end hread] at h
        cases h
      · rw [exchange_of_block hread hne]
        show (reply mapper block { c with reader := c.reader.readBlock.2 }).2.reader.newlines < _
        rw [reader_reply]
        exact Wire.Reader.newlines_readBlock_lt hread hne

theorem exchangeRound_advances (mapper : Mapper σ) (c : Connection σ ω) :
    Advances (fun c => c.reader.newlines) (run mapper) c (exchangeRound mapper c) := by
  obtain ⟨outcome, houtcome⟩ : ∃ outcome, (exchange mapper c).1 = outcome := ⟨_, rfl⟩
  rw [exchangeRound, show exchange mapper c = ((exchange mapper c).1, (exchange mapper c).2) from rfl,
    houtcome]
  cases outcome with
  | error failure => exact (run_of_error houtcome).symm
  | ok more =>
      cases more with
      | false => exact (run_of_false houtcome).symm
      | true => exact ⟨newlines_exchange_lt houtcome, (run_of_true houtcome).symm⟩

end Connection

/-- **Reading always ends**, whatever the stream holds, however it is cut and wherever it fails.  Taking a
    line asks the stream at most once more than it has bytes and faults.  A block takes no more scans than
    twice the bytes of the stream and those held, and uses up a newline for each of its messages.  So no more
    blocks are asked for, or served, than one more than there are newlines. -/
theorem reading_ends :
    (∀ s : InputStream,
        within InputStream.lineRound (s.faults.length + s.rest.length + 1) ([], s) = some s.readLine)
      ∧ (∀ r : Wire.Reader,
          within Wire.Reader.scanRound (r.pending.length + 2 * r.stream.rest.length + 1) ({}, r)
              = some r.readBlock
            ∧ (∃ used, r.input = used ++ r.readBlock.2.input
                ∧ ∀ block, r.readBlock.1 = .ok block → block.length ≤ used.count Byte.newline)
            ∧ within Wire.Reader.blockRound (r.input.count Byte.newline + 1) ([], r) = some r.blocks)
      ∧ ∀ (σ ω : Type) [Sink ω] (mapper : Mapper σ) (c : Connection σ ω),
          within (Connection.exchangeRound mapper) (c.reader.input.count Byte.newline + 1) c
            = some (Connection.run mapper c) := by
  refine ⟨?_, ?_, ?_⟩
  · intro s
    exact within_of_advances InputStream.lineRound_advances ([], s)
  · intro r
    refine ⟨within_of_advances Wire.Reader.scanRound_advances ({}, r), Wire.Reader.newlines_readBlock r, ?_⟩
    exact within_of_advances Wire.Reader.blockRound_advances ([], r)
  · intro σ ω _ mapper c
    exact within_of_advances (Connection.exchangeRound_advances mapper) c

end ModuleMapper
