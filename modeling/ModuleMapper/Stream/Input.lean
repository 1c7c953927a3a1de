import ModuleMapper.Bytes

/-!
# Input streams — bytes that arrive in pieces, with faults between them

  A stream is what is left to hand over, where it stands, how much it hands over at once, and the
  faults that lie ahead. It also remembers where it was last asked for more, so that one can say that
  a reader has not asked for what it does not need.

  `readLine` takes bytes through the next newline. It asks as often as it must, asks again after an
  interruption, and keeps what it has taken when another fault stops it.
-/

namespace ModuleMapper

/-- A fault of a stream: it is met once, when the stream is asked for more at or behind `offset`. -/
structure Fault where
  offset : Nat
  /-- An interrupted reader asks again. -/
  interruption : Bool
  text : String
  deriving Repr, DecidableEq

/-- A stream of bytes to read from. -/
structure InputStream where
  /-- What has not been taken. -/
  rest : Bytes
  /-- The most bytes handed over at once. -/
  chunk : Nat := 8192
  /-- The faults ahead, in the order in which they are met. -/
  faults : List Fault := []
  /-- How many bytes have been taken. -/
  position : Nat := 0
  /-- The position at which the stream was last asked for more. -/
  lastAsked : Option Nat := none
  deriving Repr, DecidableEq

namespace InputStream

/-- What a stream says when it is asked for more. -/
inductive Answer where
  /-- So many bytes may be taken now; none at the end of the stream. -/
  | window (size : Nat)
  | fault (fault : Fault)
  deriving Repr, DecidableEq

/-- Ask for more. A fault that is met is gone; what may be taken never reaches past the next one. -/
def ask (s : InputStream) : Answer × InputStream :=
  let asked := { s with lastAsked := some s.position }
  match s.faults with
  | [] => (.window s.chunk, asked)
  | fault :: others =>
    if fault.offset ≤ s.position then (.fault fault, { asked with faults := others })
    else (.window (min s.chunk (fault.offset - s.position)), asked)

/-- The bytes through the first newline, but no more than `size`; and the bytes behind them. -/
def lineWithin : (size : Nat) → Bytes → Bytes × Bytes
  | 0, bytes => ([], bytes)
  | _ + 1, [] => ([], [])
  | size + 1, b :: rest =>
    if b = Byte.newline then ([b], rest)
    else ((b :: (lineWithin size rest).1), (lineWithin size rest).2)

/-- Take bytes through the next newline out of a window. -/
def takeLine (s : InputStream) (size : Nat) : Bytes × InputStream :=
  let (taken, rest) := lineWithin size s.rest
  (taken, { s with rest, position := s.position + taken.length })

theorem lineWithin_append (size : Nat) (bytes : Bytes) :
    (lineWithin size bytes).1 ++ (lineWithin size bytes).2 = bytes := by
  induction bytes generalizing size with
  | nil => cases size <;> rfl
  | cons b rest ih =>
    cases size with
    | zero => rfl
    | succ size =>
      simp only [lineWithin]
      split
      · rfl
      · simp [ih]

theorem length_takeLine (s : InputStream) (size : Nat) :
    (s.takeLine size).1.length + (s.takeLine size).2.rest.length = s.rest.length := by
  have := congrArg List.length (lineWithin_append size s.rest)
  simpa [takeLine] using this

/-- How much a stream can still answer. -/
def remaining (s : InputStream) : Nat := s.faults.length + s.rest.length

theorem rest_ask (s : InputStream) : s.ask.2.rest = s.rest := by
  simp only [ask]
  split
  · rfl
  · split <;> rfl

theorem faults_ask_of_window {s : InputStream} {size : Nat} (h : s.ask.1 = .window size) :
    s.ask.2.faults = s.faults := by
  simp only [ask] at h ⊢
  split
  · simp_all
  · split <;> simp_all

theorem remaining_ask_lt_of_fault {s : InputStream} {fault : Fault} (h : s.ask.1 = .fault fault) :
    s.ask.2.remaining < s.remaining := by
  simp only [ask] at h ⊢
  split
  · simp_all
  · split <;> simp_all [remaining]

theorem remaining_takeLine_lt {s : InputStream} {size : Nat} (h : (s.takeLine size).1 ≠ []) :
    (s.takeLine size).2.remaining < s.remaining := by
  have hlen := length_takeLine s size
  have hpos := List.length_pos_iff.2 h
  have hfaults : (s.takeLine size).2.faults = s.faults := rfl
  simp only [remaining, hfaults]
  omega

/-- What one line cost: the bytes taken, the fault that stopped it, and the stream afterwards. -/
structure LineRead where
  taken : Bytes
  fault : Option Fault
  stream : InputStream
  deriving Repr, DecidableEq

/-- Take bytes through the next newline. Nothing taken and no fault means the end of the stream. -/
def readLine (s : InputStream) : LineRead :=
  match _ : s.ask.1 with
  | .fault fault =>
    if fault.interruption then readLine s.ask.2 else ⟨[], some fault, s.ask.2⟩
  | .window size =>
    let step := s.ask.2.takeLine size
    if _ : step.1 = [] ∨ step.1.getLast? = some Byte.newline then ⟨step.1, none, step.2⟩
    else
      let more := readLine step.2
      ⟨step.1 ++ more.taken, more.fault, more.stream⟩
termination_by s.remaining
decreasing_by
  · exact remaining_ask_lt_of_fault (by assumption)
  · have hne : step.1 ≠ [] := by simp_all
    have := remaining_takeLine_lt hne
    have hsame : s.ask.2.remaining = s.remaining := by
      simp only [remaining, rest_ask, faults_ask_of_window (by assumption : s.ask.1 = .window size)]
    simp only [hsame] at this
    exact this

/-- Reading a line takes bytes off the front and loses none. -/
theorem readLine_append (s : InputStream) :
    s.readLine.taken ++ s.readLine.stream.rest = s.rest := by
  fun_induction readLine s with
  | case1 s fault _ _ ih => rw [ih, rest_ask]
  | case2 s fault _ _ => simp [rest_ask]
  | case3 s size _ step _ =>
    rw [← rest_ask s]
    exact lineWithin_append size _
  | case4 s size _ step _ more ih =>
    rw [← rest_ask s, List.append_assoc]
    show step.1 ++ (more.taken ++ more.stream.rest) = _
    rw [ih]
    exact lineWithin_append size _

end InputStream

end ModuleMapper
