import ModuleMapper.Proofs.Sinks

/-!
# Writing — output streams as sinks

  An output stream that takes at least a byte at a time keeps its limit (`Sink.keeps_ofStream`).  It is *open*
  if it has no limit and flushes; then it takes all that is sent (`Sink.open_ofStream`).

  On any output stream, too, sending succeeds only if all bytes were taken and then flushed, once
  (`Wire.send_of_ok`).
-/

namespace ModuleMapper

namespace OutputStream

variable {s : OutputStream}

/-- A stream that takes everything, though perhaps only a few bytes at once. -/
structure Open (s : OutputStream) : Prop where
  limit : s.limit = none
  atOnce : ∀ most ∈ s.atOnce, 0 < most
  flushFault : s.flushFault = none

/-- A write to a stream that is not full succeeds. -/
theorem write_of_not_full (h : s.isFull = false) (bytes : Bytes) :
    s.write bytes = (.ok (s.capacity bytes.length),
      { s with written := s.written ++ bytes.take (s.capacity bytes.length) }) := by
  rw [write, h]
  rfl

/-- While there is room, the stream is not full. -/
theorem isFull_of_room (h : Room s.limit s.written) : s.isFull = false := by
  rw [isFull]
  cases hlimit : s.limit with
  | none => rfl
  | some most =>
      rw [hlimit, room_some, ← Nat.not_le] at h
      exact decide_eq_false h

/-- While there is room, the next write takes some of the bytes, and stays below the limit. -/
theorem capacity_of_room {count : Nat} (hatOnce : ∀ most ∈ s.atOnce, 0 < most)
    (hroom : Room s.limit s.written) (hcount : 0 < count) :
    0 < s.capacity count ∧ s.capacity count ≤ count
      ∧ ∀ most ∈ s.limit, s.written.length + s.capacity count ≤ most := by
  rw [capacity]
  cases hlimit : s.limit with
  | none =>
      cases hmost : s.atOnce with
      | none => exact ⟨hcount, Nat.le_refl _, fun _ h => by cases h⟩
      | some atOnce =>
          have hpositive := hatOnce atOnce hmost
          refine ⟨?_, ?_, fun _ h => by cases h⟩
          · exact Nat.lt_min.mpr ⟨hcount, hpositive⟩
          · exact Nat.min_le_left _ _
  | some limit =>
      rw [hlimit, room_some] at hroom
      have hbelow : ∀ taken, taken ≤ limit - s.written.length →
          ∀ most ∈ some limit, s.written.length + taken ≤ most := by
        intro taken htaken most hmost
        obtain rfl : limit = most := Option.some.inj hmost
        omega
      cases hmost : s.atOnce with
      | none =>
          refine ⟨?_, Nat.min_le_left _ _, hbelow _ (Nat.min_le_right _ _)⟩
          exact Nat.lt_min.mpr ⟨hcount, Nat.sub_pos_of_lt hroom⟩
      | some atOnce =>
          have hpositive := hatOnce atOnce hmost
          refine ⟨?_, ?_, hbelow _ ?_⟩
          · exact Nat.lt_min.mpr ⟨Nat.lt_min.mpr ⟨hcount, Nat.sub_pos_of_lt hroom⟩, hpositive⟩
          · exact Nat.le_trans (Nat.min_le_left _ _) (Nat.min_le_left _ _)
          · exact Nat.le_trans (Nat.min_le_left _ _) (Nat.min_le_right _ _)

/-- Without room the next write takes nothing. -/
theorem capacity_of_not_room (h : ¬ Room s.limit s.written) (count : Nat) : s.capacity count = 0 := by
  rw [capacity]
  cases hlimit : s.limit with
  | none =>
      rw [hlimit] at h
      exact absurd (room_none s.written) h
  | some limit =>
      rw [hlimit, room_some, Nat.not_lt] at h
      have hroom : min count (limit - s.written.length) = 0 := by
        rw [Nat.sub_eq_zero_of_le h, Nat.min_zero]
      cases s.atOnce with
      | none => exact hroom
      | some atOnce =>
          show min (min count (limit - s.written.length)) atOnce = 0
          rw [hroom, Nat.zero_min]

/-- A write changes nothing about a stream but what stands on it. -/
theorem state_write (bytes : Bytes) (s : OutputStream) :
    (s.write bytes).2 = { s with written := (s.write bytes).2.written } := by
  rw [write]
  split
  · rfl
  · rfl

theorem state_flush (s : OutputStream) : s.flush.2 = { s with flushes := s.flushes + 1 } := by
  rw [flush]
  cases s.flushFault with
  | none => rfl
  | some text => rfl

theorem flush_eq_ok_iff : s.flush.1 = .ok () ↔ s.flushFault = none := by
  rw [flush]
  cases s.flushFault with
  | none => simp
  | some text => simp

/-- What a write says to have taken stands behind what was written before. -/
theorem write_of_ok {after : OutputStream} {bytes : Bytes} {taken : Nat}
    (h : s.write bytes = (.ok taken, after)) :
    after = { s with written := s.written ++ bytes.take taken } := by
  rw [write] at h
  split at h
  · cases h
  · injection h with htaken hafter
    injection htaken with htaken
    rw [← hafter, ← htaken]

/-- **Writing succeeds only if all bytes are taken**, in order.  Induction on the writes. -/
theorem writeAll_of_ok {bytes : Bytes}
    (h : (Sink.ofStream.writeAll bytes s).1 = .ok ()) :
    (Sink.ofStream.writeAll bytes s).2 = { s with written := s.written ++ bytes } := by
  fun_induction Sink.writeAll Sink.ofStream bytes s with
  | case1 s => rw [List.append_nil]
  | case2 | case3 => cases h
  | case4 bytes s hbytes taken after hwrite htaken ih =>
      rw [ih h, write_of_ok hwrite]
      simp only [List.append_assoc, List.take_append_drop]

end OutputStream

namespace Sink

/-- **An output stream keeps its limit**, if it takes at least a byte at a time. -/
theorem keeps_ofStream (limit : Option Nat) (flushFault : Option String) :
    ofStream.Keeps limit OutputStream.written
      fun s => s.limit = limit ∧ s.flushFault = flushFault ∧ ∀ most ∈ s.atOnce, 0 < most where
  takes := by
    rintro bytes s ⟨rfl, -, hatOnce⟩ hne hroom
    have hwrite := OutputStream.write_of_not_full (OutputStream.isFull_of_room hroom) bytes
    obtain ⟨hpositive, hinside, hbelow⟩ :=
      OutputStream.capacity_of_room hatOnce hroom (List.length_pos_iff.mpr hne)
    refine ⟨s.capacity bytes.length, congrArg Prod.fst hwrite, hpositive, hinside,
      congrArg (fun answer => answer.2.written) hwrite, ?_⟩
    intro most hmost
    rw [List.length_append, List.length_take, Nat.min_eq_left hinside]
    exact hbelow most hmost
  refuses := by
    rintro bytes s ⟨rfl, -, -⟩ hne hroom
    show ((s.write bytes).1 = .ok 0 ∨ ∃ cause, (s.write bytes).1 = .error cause)
      ∧ (s.write bytes).2.written = s.written
    rw [OutputStream.write]
    split
    · exact ⟨Or.inr ⟨_, rfl⟩, rfl⟩
    · simp only [OutputStream.capacity_of_not_room hroom, List.take_zero, List.append_nil]
      exact ⟨Or.inl trivial, trivial⟩
  flush := by
    intro s _
    show s.flush.2.written = s.written
    rw [OutputStream.state_flush]
  sound_write := by
    rintro bytes s ⟨hlimit, hflush, hatOnce⟩
    show (s.write bytes).2.limit = limit ∧ (s.write bytes).2.flushFault = flushFault
      ∧ ∀ most ∈ (s.write bytes).2.atOnce, 0 < most
    rw [OutputStream.state_write]
    exact ⟨hlimit, hflush, hatOnce⟩
  sound_flush := by
    rintro s ⟨hlimit, hflush, hatOnce⟩
    show s.flush.2.limit = limit ∧ s.flush.2.flushFault = flushFault
      ∧ ∀ most ∈ s.flush.2.atOnce, 0 < most
    rw [OutputStream.state_flush]
    exact ⟨hlimit, hflush, hatOnce⟩

/-- **An open output stream is an open sink.** -/
theorem open_ofStream : ofStream.Open OutputStream.written OutputStream.Open where
  keeps := by
    have hsame : OutputStream.Open
        = fun s => s.limit = none ∧ s.flushFault = none ∧ ∀ most ∈ s.atOnce, 0 < most := by
      funext s
      refine propext ⟨?_, ?_⟩
      · intro h
        exact ⟨h.limit, h.flushFault, h.atOnce⟩
      · rintro ⟨hlimit, hflush, hatOnce⟩
        exact ⟨hlimit, hatOnce, hflush⟩
    rw [hsame]
    exact keeps_ofStream none none
  flush := by
    intro s h
    exact OutputStream.flush_eq_ok_iff.mpr h.flushFault

end Sink

namespace Wire

variable {output : OutputStream} {block : Block}

/-- A block that is sent stands on the stream as a whole, and the stream was flushed behind it. -/
theorem send_of_ok (h : (send block output).1 = .ok ()) :
    (send block output).2.written = output.written ++ block.encode
      ∧ (send block output).2.flushes = output.flushes + 1 := by
  obtain ⟨htaken, -, hstate⟩ := Sink.send_of_ok h
  have hsent : (send block output).2
      = (OutputStream.flush { output with written := output.written ++ block.encode }).2 := by
    rw [OutputStream.writeAll_of_ok htaken] at hstate
    exact hstate
  rw [hsent, OutputStream.state_flush]
  exact ⟨rfl, rfl⟩

end Wire

end ModuleMapper
