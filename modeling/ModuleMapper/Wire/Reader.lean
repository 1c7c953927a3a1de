import ModuleMapper.Failure
import ModuleMapper.Stream.Input
import ModuleMapper.Wire.Draft

/-!
# Readers — blocks from a stream, line by line

  A reader holds the bytes that it has taken from its stream and not yet made tokens of. It takes the
  next line only when these hold no whole token, so that it never waits for more than the block that
  it is putting together.

  `readBlock` gives the empty block when the stream ends between two blocks. What a reader has taken
  from its stream when it fails stays with the reader for the next call.
-/

namespace ModuleMapper.Wire

/-! ## Taking tokens from a stream -/

/-- A reader of blocks. -/
structure Reader where
  stream : InputStream
  /-- Bytes taken from the stream that are no part of a token yet. -/
  pending : Bytes := []
  /-- Has the stream said that it ends? -/
  ended : Bool := false
  /-- Has the iteration over the blocks finished? -/
  finished : Bool := false
  deriving Repr, DecidableEq

namespace Reader

/-- The bytes a reader can still make tokens of. -/
def remaining (r : Reader) : Nat := r.pending.length + r.stream.rest.length

/-- Take the next line from the stream. The answer is whether there was more to take. -/
def readLine (r : Reader) : Except Failure Bool × Reader :=
  if r.ended then (.ok false, r)
  else
    let line := r.stream.readLine
    let held := { r with stream := line.stream, pending := r.pending ++ line.taken }
    match line.fault with
    | some fault => (.error (.stream (.note fault.text)), held)
    | none =>
      if line.taken = [] then (.ok false, { held with ended := true }) else (.ok true, held)

theorem remaining_readLine (r : Reader) : r.readLine.2.remaining = r.remaining := by
  have hlen := congrArg List.length (InputStream.readLine_append r.stream)
  rw [List.length_append] at hlen
  unfold readLine
  split
  · rfl
  · simp only
    split
    · simp only [remaining, List.length_append]; omega
    · split <;> simp only [remaining, List.length_append] <;> omega

theorem rest_readLine_lt {r : Reader} (h : r.readLine.1 = .ok true) :
    r.readLine.2.stream.rest.length < r.stream.rest.length := by
  have hlen := congrArg List.length (InputStream.readLine_append r.stream)
  rw [List.length_append] at hlen
  unfold readLine at h ⊢
  split at h
  · cases h
  · next hended =>
    simp only [hended] at h ⊢
    split at h
    · cases h
    · next hf =>
      split at h
      · cases h
      · next htaken =>
        simp only [htaken, if_false, Bool.false_eq_true]
        have := List.length_pos_iff.2 htaken
        omega

/-- The next token, or none when the stream has ended. -/
def readToken (r : Reader) : Except Failure (Option Token) × Reader :=
  match scan r.pending with
  | .token token rest => (.ok (some token), { r with pending := rest })
  | .malformed line => (.error (.malformed (Text.lossy line)), r)
  | .blank =>
    let blank := { r with pending := [] }
    match _ : blank.readLine.1 with
    | .error failure => (.error failure, blank.readLine.2)
    | .ok false => (.ok none, blank.readLine.2)
    | .ok true => readToken blank.readLine.2
  | .unclosed =>
    match _ : r.readLine.1 with
    | .error failure => (.error failure, r.readLine.2)
    | .ok false => (.error .truncated, r.readLine.2)
    | .ok true => readToken r.readLine.2
termination_by r.stream.rest.length
decreasing_by
  · exact rest_readLine_lt (r := { r with pending := [] }) (by assumption)
  · exact rest_readLine_lt (by assumption)

/-- A token uses up at least one byte. -/
theorem remaining_readToken_lt {r : Reader} {token : Token} (h : r.readToken.1 = .ok (some token)) :
    r.readToken.2.remaining < r.remaining := by
  fun_induction readToken r with
  | case1 r token' rest hscan =>
    have := scan_rest_lt hscan
    simp only [remaining]
    omega
  | case2 => cases h
  | case3 | case4 | case6 | case7 => cases h
  | case5 r _ blank _ ih =>
    have hline := remaining_readLine blank
    have := ih h
    simp only [remaining, blank, List.length_nil] at *
    omega
  | case8 r _ _ ih =>
    have hline := remaining_readLine r
    have := ih h
    omega

/-! ## Taking blocks from a stream -/

/-- Go on with a draft until it is a block. -/
def complete (draft : Draft) (r : Reader) : Except Failure Block × Reader :=
  match _ : r.readToken.1 with
  | .error failure => (.error failure, r.readToken.2)
  | .ok none => (if draft.isEmpty then .ok [] else .error .truncated, r.readToken.2)
  | .ok (some token) =>
    match draft.feed token with
    | .closed block => (.ok block, r.readToken.2)
    | .open draft => complete draft r.readToken.2
termination_by r.remaining
decreasing_by exact remaining_readToken_lt (by assumption)

/-- The next block of the stream; empty when the stream ends before it starts. -/
def readBlock (r : Reader) : Except Failure Block × Reader := complete {} r

/-- A block with messages uses up at least one byte. -/
theorem remaining_complete_lt {draft : Draft} {r : Reader} {block : Block}
    (h : (complete draft r).1 = .ok block) (hne : block ≠ []) :
    (complete draft r).2.remaining < r.remaining := by
  fun_induction complete draft r with
  | case1 => cases h
  | case2 draft r _ =>
    simp only at h
    split at h
    · cases h; exact absurd rfl hne
    · cases h
  | case3 draft r token htoken _ _ => exact remaining_readToken_lt htoken
  | case4 draft r token htoken _ _ ih =>
    exact Nat.lt_trans (ih h) (remaining_readToken_lt htoken)

theorem remaining_readBlock_lt {r : Reader} {block : Block} (h : r.readBlock.1 = .ok block)
    (hne : block ≠ []) : r.readBlock.2.remaining < r.remaining :=
  remaining_complete_lt h hne

/-- Step of an iteration over the blocks: it finishes at the end of the stream, or with the first
    failure. -/
def iterate (r : Reader) : Option (Except Failure Block) × Reader :=
  if r.finished then (none, r)
  else
    match r.readBlock with
    | (.ok [], r) => (none, { r with finished := true })
    | (.ok block, r) => (some (.ok block), r)
    | (.error failure, r) => (some (.error failure), { r with finished := true })

/-- All blocks up to the end of the stream or the first failure. -/
def blocks (r : Reader) : List Block × Option Failure × Reader :=
  match _ : r.readBlock.1 with
  | .error failure => ([], some failure, r.readBlock.2)
  | .ok block =>
    if _ : block = [] then ([], none, r.readBlock.2)
    else
      let (others, failure, last) := blocks r.readBlock.2
      (block :: others, failure, last)
termination_by r.remaining
decreasing_by exact remaining_readBlock_lt (by assumption) (by assumption)

end Reader

end ModuleMapper.Wire
