import ModuleMapper.Stream.Input
import ModuleMapper.Wire.Token

/-!
# Lines — what one call takes from a stream that does not fail

  A stream is *calm* when the only faults ahead are interruptions and when it hands over at least one
  byte at a time.  `readLine` then takes exactly the next line, `Wire.lineOf`, however small the
  windows are and wherever the interruptions stand: `readLine_of_calm`.

  A window ends where the stream's `chunk` ends or where the next fault lies.  So the calm streams over
  one content are that content cut in every possible way: interruptions may stand wherever one wants a
  cut.
-/

namespace ModuleMapper

namespace Wire

/-! ## The line at the front of a byte string -/

/-- Only the empty byte string has an empty line. -/
theorem lineOf_eq_nil {bytes : Bytes} (h : lineOf bytes = []) : bytes = [] := by
  cases bytes with
  | nil => rfl
  | cons b rest =>
      simp only [lineOf] at h
      split at h
      · cases h
      · cases h

/-- A line is over: what follows a newline does not belong to it. -/
theorem lineOf_append {bytes : Bytes} (h : Byte.newline ∈ bytes) (more : Bytes) :
    lineOf (bytes ++ more) = lineOf bytes := by
  induction bytes with
  | nil => exact absurd h (by simp)
  | cons b rest ih =>
      rw [List.cons_append]
      simp only [lineOf]
      by_cases hb : b = Byte.newline
      · rw [if_pos hb, if_pos hb]
      · have hrest : Byte.newline ∈ rest := by
          rcases List.mem_cons.mp h with heq | hmem
          · exact absurd heq.symm hb
          · exact hmem
        rw [if_neg hb, if_neg hb, ih hrest]

/-- A line goes through the first newline. -/
theorem lineOf_append_newline {front : Bytes} (h : Byte.newline ∉ front) (more : Bytes) :
    lineOf (front ++ Byte.newline :: more) = front ++ [Byte.newline] := by
  induction front with
  | nil => rfl
  | cons b front ih =>
      have hb : b ≠ Byte.newline := fun heq => h (heq ▸ List.mem_cons_self)
      rw [List.cons_append, lineOf, if_neg hb, ih fun hmem => h (List.mem_cons_of_mem b hmem)]
      rfl

/-- Without a newline, the line is all there is. -/
theorem lineOf_of_not_mem {bytes : Bytes} (h : Byte.newline ∉ bytes) : lineOf bytes = bytes := by
  induction bytes with
  | nil => rfl
  | cons b rest ih =>
      have hb : b ≠ Byte.newline := fun heq => h (heq ▸ List.mem_cons_self)
      rw [lineOf, if_neg hb, ih fun hmem => h (List.mem_cons_of_mem b hmem)]

/-- A line ends in its newline; only the last one of an input may lack it. -/
theorem getLast?_lineOf (bytes : Bytes) :
    (lineOf bytes).getLast? = some Byte.newline ∨ lineOf bytes = bytes := by
  induction bytes with
  | nil => exact Or.inr rfl
  | cons b rest ih =>
      simp only [lineOf]
      by_cases hb : b = Byte.newline
      · rw [if_pos hb, hb]
        exact Or.inl rfl
      · rw [if_neg hb]
        rcases ih with hlast | hall
        · refine Or.inl ?_
          rw [List.getLast?_cons, hlast]
          rfl
        · exact Or.inr (by rw [hall])

end Wire

namespace InputStream

/-! ## Calm streams -/

/-- A stream that never fails: what interrupts it is tried again, and it hands over at least one byte
    at a time. -/
structure Calm (s : InputStream) : Prop where
  chunk_pos : 0 < s.chunk
  interruption : ∀ fault ∈ s.faults, fault.interruption = true

/-- Asking leaves a calm stream calm. -/
theorem Calm.ask {s : InputStream} (h : s.Calm) : s.ask.2.Calm := by
  simp only [InputStream.ask]
  split
  · exact ⟨h.chunk_pos, h.interruption⟩
  · next fault others hfaults =>
      have hothers : ∀ f ∈ others, f.interruption = true := by
        intro f hf
        exact h.interruption f (by rw [hfaults]; exact List.mem_cons_of_mem _ hf)
      split
      · exact ⟨h.chunk_pos, hothers⟩
      · exact ⟨h.chunk_pos, h.interruption⟩

/-- A fault of a calm stream is an interruption. -/
theorem Calm.interruption_of_ask {s : InputStream} {fault : Fault} (h : s.Calm)
    (hask : s.ask.1 = .fault fault) : fault.interruption = true := by
  simp only [InputStream.ask] at hask
  split at hask
  · cases hask
  · next first others hfaults =>
      split at hask
      · injection hask with heq
        exact h.interruption fault (by rw [hfaults, heq]; exact List.mem_cons_self)
      · cases hask

/-- The window of a calm stream is never empty. -/
theorem Calm.window_pos {s : InputStream} {size : Nat} (h : s.Calm)
    (hask : s.ask.1 = .window size) : 0 < size := by
  have hchunk := h.chunk_pos
  simp only [InputStream.ask] at hask
  split at hask
  · injection hask with heq
    omega
  · split at hask
    · cases hask
    · injection hask with heq
      omega

/-! ## Lines out of windows -/

private theorem lineWithin_cons (size : Nat) {b : UInt8} (rest : Bytes) (hb : b ≠ Byte.newline) :
    lineWithin (size + 1) (b :: rest) = (b :: (lineWithin size rest).1, (lineWithin size rest).2) := by
  simp only [lineWithin, if_neg hb]

private theorem getLast?_cons_eq_newline {b : UInt8} (bytes : Bytes) (hb : b ≠ Byte.newline) :
    (b :: bytes).getLast? = some Byte.newline ↔ bytes.getLast? = some Byte.newline := by
  rw [List.getLast?_cons]
  cases bytes.getLast? with
  | none => simp [hb]
  | some last => simp

/-- A window that yields a newline yields the line. -/
theorem lineOf_eq_lineWithin (size : Nat) (bytes : Bytes)
    (h : (lineWithin size bytes).1.getLast? = some Byte.newline) :
    Wire.lineOf bytes = (lineWithin size bytes).1 := by
  induction bytes generalizing size with
  | nil => cases size <;> cases h
  | cons b rest ih =>
      cases size with
      | zero => cases h
      | succ size =>
          by_cases hb : b = Byte.newline
          · simp only [lineWithin, Wire.lineOf, if_pos hb]
          · rw [lineWithin_cons size rest hb] at h ⊢
            have hrest := ih size ((getLast?_cons_eq_newline _ hb).mp h)
            simp only [Wire.lineOf, if_neg hb, hrest]

/-- Behind a window that yields no newline the line goes on. -/
theorem lineOf_eq_lineWithin_append (size : Nat) (bytes : Bytes)
    (h : (lineWithin size bytes).1.getLast? ≠ some Byte.newline) :
    Wire.lineOf bytes = (lineWithin size bytes).1 ++ Wire.lineOf (lineWithin size bytes).2 := by
  induction bytes generalizing size with
  | nil => cases size <;> rfl
  | cons b rest ih =>
      cases size with
      | zero => rfl
      | succ size =>
          by_cases hb : b = Byte.newline
          · refine absurd ?_ h
            simp only [lineWithin, hb]
            rfl
          · rw [lineWithin_cons size rest hb] at h ⊢
            have hrest := ih size (fun hlast => h ((getLast?_cons_eq_newline _ hb).mpr hlast))
            simp only [Wire.lineOf, if_neg hb, List.cons_append]
            rw [← hrest]

/-- A window of at least one byte yields nothing only at the end of the stream. -/
theorem eq_nil_of_lineWithin {size : Nat} {bytes : Bytes} (hsize : 0 < size)
    (h : (lineWithin size bytes).1 = []) : bytes = [] := by
  cases bytes with
  | nil => rfl
  | cons b rest =>
      cases size with
      | zero => exact absurd hsize (Nat.lt_irrefl 0)
      | succ size =>
          simp only [lineWithin] at h
          split at h
          · cases h
          · cases h

/-- **A calm stream yields its next line**, without a fault, and stays calm. -/
theorem readLine_of_calm {s : InputStream} (h : s.Calm) :
    s.readLine.taken = Wire.lineOf s.rest ∧ s.readLine.fault = none ∧ s.readLine.stream.Calm := by
  fun_induction readLine s with
  | case1 s fault hask hinterruption ih =>
      -- an interruption: the stream is asked again
      have hnext := ih h.ask
      rw [rest_ask] at hnext
      exact hnext
  | case2 s fault hask hinterruption =>
      -- no other fault lies ahead of a calm stream
      exact absurd (h.interruption_of_ask hask) hinterruption
  | case3 s size hask step hstop =>
      -- the window holds the end of the line, or the stream has ended
      have htake : step.1 = (lineWithin size s.rest).1 := by
        show (lineWithin size s.ask.2.rest).1 = _
        rw [rest_ask]
      refine ⟨?_, rfl, h.ask.chunk_pos, h.ask.interruption⟩
      show step.1 = _
      rw [htake] at hstop ⊢
      rcases hstop with hnil | hlast
      · -- nothing was taken, so nothing is left
        have hrest : s.rest = [] := eq_nil_of_lineWithin (h.window_pos hask) hnil
        rw [hnil, hrest]
        rfl
      · exact (lineOf_eq_lineWithin size s.rest hlast).symm
  | case4 s size hask step hgo more ih =>
      -- the window ends inside the line
      have htake : step.1 = (lineWithin size s.rest).1 := by
        show (lineWithin size s.ask.2.rest).1 = _
        rw [rest_ask]
      have hrest : step.2.rest = (lineWithin size s.rest).2 := by
        show (lineWithin size s.ask.2.rest).2 = _
        rw [rest_ask]
      obtain ⟨htaken, hfault, hcalm⟩ := ih ⟨h.ask.chunk_pos, h.ask.interruption⟩
      refine ⟨?_, hfault, hcalm⟩
      show step.1 ++ more.taken = _
      have hopen : (lineWithin size s.rest).1.getLast? ≠ some Byte.newline :=
        fun hlast => hgo (Or.inr (htake ▸ hlast))
      rw [lineOf_eq_lineWithin_append size s.rest hopen, ← htake, ← hrest, ← htaken]

end InputStream

end ModuleMapper
