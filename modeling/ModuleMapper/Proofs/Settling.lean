import ModuleMapper.Proofs.Reading

/-!
# Settling — what a reader says again

  A reader that has met the end of its stream, bytes that are no token, or a quote that is open at the end
  of the stream has *settled*: whoever asks again gets the same answer, and the reader neither changes nor
  asks its stream for more (`settled_readToken`).  Only a token, and a read that fails, leave it unsettled.

  A settled reader gives no block any more.  Behind the end of the stream it gives the end again, and
  else the same failure (`readBlock_again_of_end`, `mute_of_malformed`, `mute_of_open_quote`).  For a
  reader that fails does not pass what it has stumbled over (`standsAt_ask`).
-/

namespace ModuleMapper.Wire.Reader

variable {r : Reader} {failure : Failure}

/-! ## Lines -/

/-- Behind the end of a stream there are no lines. -/
theorem readLine_of_ended (h : r.ended = true) : r.readLine = (.ok false, r) := by
  rw [readLine, if_pos h]

/-- A reader for which there is no line holds what it held, and knows of the end. -/
theorem ended_of_readLine (h : r.readLine.1 = .ok false) :
    r.readLine.2.pending = r.pending ∧ r.readLine.2.ended = true := by
  rw [readLine] at h ⊢
  by_cases hended : r.ended = true
  · rw [if_pos hended]
    exact ⟨rfl, hended⟩
  · rw [if_neg hended] at h ⊢
    cases hfault : r.stream.readLine.fault with
    | some fault =>
        simp only [hfault] at h
        cases h
    | none =>
        simp only [hfault] at h ⊢
        by_cases htaken : r.stream.readLine.taken = []
        · simp only [if_pos htaken]
          exact ⟨by rw [htaken, List.append_nil], trivial⟩
        · simp only [if_neg htaken] at h
          cases h

/-- Only the stream makes the taking of a line fail. -/
theorem stream_of_readLine (h : r.readLine.1 = .error failure) :
    ∃ cause, failure = .stream cause := by
  rw [readLine] at h
  by_cases hended : r.ended = true
  · rw [if_pos hended] at h
    cases h
  · rw [if_neg hended] at h
    cases hfault : r.stream.readLine.fault with
    | some fault =>
        simp only [hfault] at h
        injection h with heq
        exact ⟨_, heq.symm⟩
    | none =>
        simp only [hfault] at h
        by_cases htaken : r.stream.readLine.taken = []
        · simp only [if_pos htaken] at h
          cases h
        · simp only [if_neg htaken] at h
          cases h

/-! ## Tokens -/

/-- What is held begins with a token. -/
theorem readToken_of_token {token : Token} {rest : Bytes} (h : scan r.pending = .token token rest) :
    r.readToken = (.ok (some token), { r with pending := rest }) := by
  rw [readToken]
  split <;> simp_all

/-- Blanks are thrown away, and then a line is taken. -/
theorem readToken_of_blank (h : scan r.pending = .blank) :
    r.readToken =
      match Reader.readLine { r with pending := [] } with
      | (.error failure, last) => (.error failure, last)
      | (.ok false, last) => (.ok none, last)
      | (.ok true, next) => next.readToken := by
  generalize hline : Reader.readLine { r with pending := [] } = line
  obtain ⟨answer, next⟩ := line
  rw [readToken]
  split
  · next hscan => cases h.symm.trans hscan
  · next hscan => cases h.symm.trans hscan
  · simp only
    split <;> simp_all
  · next hscan => cases h.symm.trans hscan

/-- To an open quote a line is added. -/
theorem readToken_of_unclosed (h : scan r.pending = .unclosed) :
    r.readToken =
      match r.readLine with
      | (.error failure, last) => (.error failure, last)
      | (.ok false, last) => (.error .truncated, last)
      | (.ok true, next) => next.readToken := by
  generalize hline : r.readLine = line
  obtain ⟨answer, next⟩ := line
  rw [readToken]
  split
  · next hscan => cases h.symm.trans hscan
  · next hscan => cases h.symm.trans hscan
  · next hscan => cases h.symm.trans hscan
  · split <;> simp_all

/-- Asked for a token, the reader says this and stays as it is. -/
def Settled (r : Reader) (answer : Except Failure (Option Token)) : Prop :=
  r.readToken = (answer, r)

/-- A reader that holds nothing, behind the end of its stream. -/
theorem settled_of_nil (hpending : r.pending = []) (hended : r.ended = true) :
    r.Settled (.ok none) := by
  have hclear : ({ r with pending := [] } : Reader) = r := by rw [← hpending]
  have hscan : scan r.pending = .blank := by rw [hpending, scan_nil]
  have hline : ({ r with pending := [] } : Reader).readLine = (.ok false, r) := by
    rw [hclear]
    exact readLine_of_ended hended
  rw [Settled, readToken_of_blank hscan, hline]

/-- A reader that holds an open quote, behind the end of its stream. -/
theorem settled_of_unclosed (hscan : scan r.pending = .unclosed) (hended : r.ended = true) :
    r.Settled (.error .truncated) := by
  rw [Settled, readToken_of_unclosed hscan, readLine_of_ended hended]

theorem settled_of_malformed {line : Bytes} (hscan : scan r.pending = .malformed line) :
    r.Settled (.error (.malformed (Text.lossy line))) := by
  rw [Settled, readToken]
  split <;> simp_all

/-- **An answer that is no token, and no failure of the stream, settles the reader.**  Induction on the
    lines taken. -/
theorem settled_readToken (htoken : ∀ token, r.readToken.1 ≠ .ok (some token))
    (hstream : ∀ cause, r.readToken.1 ≠ .error (.stream cause)) :
    r.readToken.2.Settled r.readToken.1 := by
  fun_induction readToken r with
  | case1 r token rest hscan => exact absurd rfl (htoken token)
  | case2 r line hscan => exact settled_of_malformed hscan
  | case3 r hscan blank failure hline =>
      obtain ⟨cause, hcause⟩ := stream_of_readLine hline
      exact absurd (congrArg Except.error hcause) (hstream cause)
  | case4 r hscan blank hline =>
      obtain ⟨hpending, hended⟩ := ended_of_readLine hline
      exact settled_of_nil hpending hended
  | case5 r hscan blank hline ih => exact ih htoken hstream
  | case6 r hscan failure hline =>
      obtain ⟨cause, hcause⟩ := stream_of_readLine hline
      exact absurd (congrArg Except.error hcause) (hstream cause)
  | case7 r hscan hline =>
      obtain ⟨hpending, hended⟩ := ended_of_readLine hline
      exact settled_of_unclosed (hpending.symm ▸ hscan) hended
  | case8 r hscan hline ih => exact ih htoken hstream

/-- A reader that has settled at the end of its stream holds nothing. -/
theorem Settled.pending_eq_nil (h : r.Settled (.ok none)) : r.pending = [] := by
  have hsame : r.readToken.2 = r := congrArg Prod.snd h
  have hanswer : r.readToken.1 = .ok none := congrArg Prod.fst h
  suffices hpending : r.readToken.2.pending = [] by rw [← hsame, hpending]
  clear h hsame
  fun_induction readToken r with
  | case1 | case2 | case3 | case6 | case7 => cases hanswer
  | case4 r hscan blank hline => exact (ended_of_readLine hline).1
  | case5 r hscan blank hline ih => exact ih hanswer
  | case8 r hscan hline ih => exact ih hanswer

/-! ## Blocks -/

/-- A draft goes on with the next token. -/
theorem complete_eq (draft : Draft) (r : Reader) :
    complete draft r =
      match r.readToken with
      | (.error failure, last) => (.error failure, last)
      | (.ok none, last) => (if draft.isEmpty then .ok [] else .error .truncated, last)
      | (.ok (some token), next) =>
        match draft.feed token with
        | .closed block => (.ok block, next)
        | .open draft => complete draft next := by
  generalize htoken : r.readToken = answer
  obtain ⟨outcome, next⟩ := answer
  rw [complete]
  split
  · simp_all
  · simp_all
  · next token houtcome =>
      rw [htoken] at houtcome ⊢
      subst houtcome
      cases hfeed : draft.feed token with
      | «open» more => simp only [hfeed]
      | closed block => simp only [hfeed]

/-- What is said for a block by a reader that is settled. -/
theorem Settled.readBlock {answer : Except Failure (Option Token)} (h : r.Settled answer) :
    (answer = .ok none → r.readBlock = (.ok [], r))
      ∧ ∀ failure, answer = .error failure → r.readBlock = (.error failure, r) := by
  constructor
  · intro hend
    rw [Reader.readBlock, complete_eq, show r.readToken = (.ok none, r) from hend ▸ h]
    rfl
  · intro failure hfailure
    rw [Reader.readBlock, complete_eq, show r.readToken = (.error failure, r) from hfailure ▸ h]

/-- **A reader that gives neither a block nor a failure of the stream is settled by then**: at the end of
    its stream, or with its failure.  Induction on the tokens. -/
theorem settled_complete {draft : Draft}
    (hblock : ∀ block, block ≠ [] → (complete draft r).1 ≠ .ok block)
    (hstream : ∀ cause, (complete draft r).1 ≠ .error (.stream cause)) :
    (complete draft r).2.Settled (.ok none)
        ∧ ((complete draft r).1 = .ok [] ∨ (complete draft r).1 = .error .truncated)
      ∨ ∃ failure, (complete draft r).1 = .error failure
        ∧ (complete draft r).2.Settled (.error failure) := by
  fun_induction complete draft r with
  | case1 draft r failure htoken =>
      have hsettled := settled_readToken (r := r) (fun token heq => by cases htoken.symm.trans heq)
        (fun cause heq => hstream cause (congrArg Except.error (Except.error.inj (htoken.symm.trans heq))))
      rw [htoken] at hsettled
      exact Or.inr ⟨failure, rfl, hsettled⟩
  | case2 draft r htoken =>
      have hsettled := settled_readToken (r := r) (fun token heq => by cases htoken.symm.trans heq)
        (fun cause heq => by cases htoken.symm.trans heq)
      rw [htoken] at hsettled
      refine Or.inl ⟨hsettled, ?_⟩
      simp only
      split
      · exact Or.inl rfl
      · exact Or.inr rfl
  | case3 draft r token htoken block hfeed =>
      exact absurd rfl (hblock block (Draft.ne_nil_of_feed hfeed))
  | case4 draft r token htoken next hfeed ih => exact ih hblock hstream

/-- A block is completed from an empty draft. -/
theorem settled_readBlock (hblock : ∀ block, block ≠ [] → r.readBlock.1 ≠ .ok block)
    (hstream : ∀ cause, r.readBlock.1 ≠ .error (.stream cause)) :
    r.readBlock.2.Settled (.ok none) ∧ (r.readBlock.1 = .ok [] ∨ r.readBlock.1 = .error .truncated)
      ∨ ∃ failure, r.readBlock.1 = .error failure ∧ r.readBlock.2.Settled (.error failure) :=
  settled_complete hblock hstream

/-- **Behind the end of the stream there is the end again**, and nothing is asked of the stream. -/
theorem readBlock_again_of_end (h : r.readBlock.1 = .ok []) :
    r.readBlock.2.readBlock = (.ok [], r.readBlock.2) := by
  rcases settled_readBlock (r := r)
      (fun block hne heq => hne (Except.ok.inj (heq.symm.trans h)))
      (fun cause heq => by cases heq.symm.trans h) with ⟨hsettled, -⟩ | ⟨failure, hfailure, -⟩
  · exact hsettled.readBlock.1 rfl
  · cases hfailure.symm.trans h

/-! ## Readers that give nothing more -/

/-- The reader after it was asked for some blocks. -/
def asked : Nat → Reader → Reader
  | 0, r => r
  | count + 1, r => asked count r.readBlock.2

/-- However often it is asked, the reader gives neither a block nor the end of its stream. -/
def Mute (r : Reader) : Prop := ∀ count block, (asked count r).readBlock.1 ≠ .ok block

/-- A mute reader fails, and is mute behind the failure. -/
theorem Mute.readBlock (h : r.Mute) :
    (∃ failure, r.readBlock.1 = .error failure) ∧ r.readBlock.2.Mute := by
  refine ⟨?_, fun count => h (count + 1)⟩
  cases hblock : r.readBlock.1 with
  | error failure => exact ⟨failure, rfl⟩
  | ok block => exact absurd hblock (h 0 block)

/-- A reader that fails and stays as it is is mute. -/
theorem mute_of_readBlock (h : r.readBlock = (.error failure, r)) : r.Mute := by
  have hsame : ∀ count, asked count r = r := by
    intro count
    induction count with
    | zero => rfl
    | succ count ih => rw [asked, h, ih]
  intro count block hblock
  rw [hsame, h] at hblock
  cases hblock

/-- A reader that has met bytes that are no token is mute. -/
theorem mute_of_malformed {text : String} (h : r.readBlock.1 = .error (.malformed text)) :
    r.readBlock.2.Mute := by
  rcases settled_readBlock (r := r) (fun block _ heq => by cases heq.symm.trans h)
      (fun cause heq => by cases heq.symm.trans h) with ⟨-, hend | htruncated⟩ | ⟨_, -, hsettled⟩
  · cases hend.symm.trans h
  · cases htruncated.symm.trans h
  · exact mute_of_readBlock (hsettled.readBlock.2 _ rfl)

/-- A reader that has met the end of its stream inside a quote is mute. -/
theorem mute_of_open_quote (h : r.readBlock.1 = .error .truncated)
    (hpending : r.readBlock.2.pending ≠ []) : r.readBlock.2.Mute := by
  rcases settled_readBlock (r := r) (fun block _ heq => by cases heq.symm.trans h)
      (fun cause heq => by cases heq.symm.trans h) with ⟨hsettled, -⟩ | ⟨_, -, hsettled⟩
  · exact absurd hsettled.pending_eq_nil hpending
  · exact mute_of_readBlock (hsettled.readBlock.2 _ rfl)

/-! ## Where a reader stops -/

/-- Where a reader stands that has failed in this way: what it stumbled over is still there to be read. -/
def StandsAt (r : Reader) : Failure → Prop
  | .malformed text => ∃ line, scan r.pending = .malformed line ∧ text = Text.lossy line
  | .truncated => scan r.pending = .unclosed ∨ r.pending = []
  | _ => True

theorem standsAt_of_readLine (h : r.readLine.1 = .error failure) (other : Reader) :
    other.StandsAt failure := by
  obtain ⟨cause, rfl⟩ := stream_of_readLine h
  exact trivial

/-- A reader that finds no token has not passed what stands there instead.  Induction on the lines taken. -/
theorem standsAt_readToken (h : r.readToken.1 = .error failure) : r.readToken.2.StandsAt failure := by
  fun_induction readToken r with
  | case1 => cases h
  | case2 r line hscan =>
      injection h with hfailure
      subst hfailure
      exact ⟨line, hscan, rfl⟩
  | case3 r hscan blank cause hline =>
      injection h with hfailure
      exact standsAt_of_readLine (hfailure ▸ hline) _
  | case4 => cases h
  | case5 r hscan blank hline ih => exact ih h
  | case6 r hscan cause hline =>
      injection h with hfailure
      exact standsAt_of_readLine (hfailure ▸ hline) _
  | case7 r hscan hline =>
      injection h with hfailure
      subst hfailure
      exact Or.inl ((ended_of_readLine hline).1.symm ▸ hscan)
  | case8 r hscan hline ih => exact ih h

/-- … and neither has one that finds no block. -/
theorem standsAt_complete {draft : Draft} (h : (complete draft r).1 = .error failure) :
    (complete draft r).2.StandsAt failure := by
  fun_induction complete draft r with
  | case1 draft r cause htoken =>
      injection h with hfailure
      exact standsAt_readToken (hfailure ▸ htoken)
  | case2 draft r htoken =>
      simp only at h
      split at h
      · cases h
      · injection h with hfailure
        subst hfailure
        have hsettled := settled_readToken (r := r) (fun token heq => by cases htoken.symm.trans heq)
          (fun cause heq => by cases htoken.symm.trans heq)
        rw [htoken] at hsettled
        exact Or.inr hsettled.pending_eq_nil
  | case3 => cases h
  | case4 draft r token htoken next hfeed ih => exact ih h

/-! ## Asking again and again -/

/-- What a reader can be asked for. -/
inductive Ask where
  /-- The next block. -/
  | block
  /-- The next step of the iteration over the blocks. -/
  | step
  deriving Repr, DecidableEq

/-- What a reader answers. -/
inductive Answer where
  | block (outcome : Except Failure Block)
  | step (outcome : Option (Except Failure Block))
  deriving Repr, DecidableEq

/-- The failure that an answer reports. -/
def Answer.failure? : Answer → Option Failure
  | block (.error failure) | step (some (.error failure)) => some failure
  | block (.ok _) | step (some (.ok _)) | step none => none

theorem Answer.eq_of_failure?_block {outcome : Except Failure Block}
    (h : (Answer.block outcome).failure? = some failure) : outcome = .error failure := by
  cases outcome with
  | ok delivered => cases h
  | error cause => rw [Option.some.inj h]

theorem Answer.eq_of_failure?_step {outcome : Option (Except Failure Block)}
    (h : (Answer.step outcome).failure? = some failure) : outcome = some (.error failure) := by
  cases outcome with
  | none => cases h
  | some result =>
      cases result with
      | ok delivered => cases h
      | error cause => rw [Option.some.inj h]

/-- The block that an answer delivers, if it reports neither a failure nor the end of the stream. -/
def Answer.delivered : Answer → List Block
  | block (.ok []) | block (.error _) | step (some (.error _)) | step none => []
  | block (.ok messages) | step (some (.ok messages)) => [messages]

theorem Answer.delivered_of_ne_nil {messages : Block} (h : messages ≠ []) :
    (Answer.block (.ok messages)).delivered = [messages] := by
  cases messages with
  | nil => exact absurd rfl h
  | cons message others => rfl

/-- What is delivered, if anything is, holds the messages of the block. -/
theorem Answer.flatten_delivered (messages : Block) :
    (Answer.block (.ok messages)).delivered.flatten = messages := by
  cases messages with
  | nil => rfl
  | cons message others => exact List.append_nil _

/-- Ask a reader once. -/
def ask (r : Reader) : Ask → Answer × Reader
  | .block => (.block r.readBlock.1, r.readBlock.2)
  | .step => (.step r.iterate.1, r.iterate.2)

/-- A step of an iteration fails where a block does. -/
theorem readBlock_of_iterate (h : r.iterate.1 = some (.error failure)) :
    r.readBlock.1 = .error failure ∧ r.iterate.2 = { r.readBlock.2 with finished := true } := by
  unfold iterate at h ⊢
  by_cases hfinished : r.finished = true
  · rw [if_pos hfinished] at h
    cases h
  · rw [if_neg hfinished] at h ⊢
    split at h
    · cases h
    · cases h
    · next cause last hread =>
        injection h with h
        injection h with hcause
        rw [hread, hcause]
        exact ⟨rfl, rfl⟩

/-- Whatever a reader was asked for, if it fails it has not passed what it stumbled over. -/
theorem standsAt_ask {ask : Ask} (h : (r.ask ask).1.failure? = some failure) :
    (r.ask ask).2.StandsAt failure := by
  cases ask with
  | block =>
      have hread : r.readBlock.1 = .error failure := Answer.eq_of_failure?_block h
      exact standsAt_complete hread
  | step =>
      have hstep : r.iterate.1 = some (.error failure) := Answer.eq_of_failure?_step h
      obtain ⟨hread, hlast⟩ := readBlock_of_iterate hstep
      have hstands : r.readBlock.2.StandsAt failure := standsAt_complete hread
      show r.iterate.2.StandsAt failure
      rw [hlast]
      cases failure <;> exact hstands

/-- The reader behind some asks. -/
def after : List Ask → Reader → Reader
  | [], r => r
  | ask :: asks, r => after asks (r.ask ask).2

/-- What a reader answers to some asks. -/
def answers : List Ask → Reader → List Answer
  | [], _ => []
  | ask :: asks, r => (r.ask ask).1 :: answers asks (r.ask ask).2

end ModuleMapper.Wire.Reader
