import ModuleMapper.Wire.Sending

/-!
# Sinks — a front of what is sent, however it is cut

  A sink *keeps a limit* if a write takes at least a byte while the limit is not reached, and fails or takes
  nothing from then on (`Sink.Keeps`).  How many bytes it takes beyond that first one, and what becomes of a
  flush, it may decide anew each time.

  None of this shows in what stands on the sink: blocks that are sent one after another, behind failures
  too, leave the front of their bytes that lies below the limit (`Sink.Keeps.sendAll`).  And a block is said
  to be sent exactly if it and all before it lie there, or it has no bytes, and the flush behind it succeeds.
-/

namespace ModuleMapper

/-! ## Limits -/

/-- Bytes fit a limit, if there is one. -/
def Fits (limit : Option Nat) (bytes : Bytes) : Prop := ∀ most ∈ limit, bytes.length ≤ most

/-- There is room for more behind some bytes. -/
def Room (limit : Option Nat) (bytes : Bytes) : Prop := ∀ most ∈ limit, bytes.length < most

/-- The front of some bytes that fits a limit. -/
def cut : Option Nat → Bytes → Bytes
  | none, bytes => bytes
  | some most, bytes => bytes.take most

section Limits

variable {limit : Option Nat} {front bytes : Bytes} {most : Nat}

instance decidableFits (limit : Option Nat) (bytes : Bytes) : Decidable (Fits limit bytes) :=
  inferInstanceAs (Decidable (∀ most ∈ limit, bytes.length ≤ most))

@[simp] theorem fits_none (bytes : Bytes) : Fits none bytes := by
  intro most hmost
  cases hmost

@[simp] theorem fits_some : Fits (some most) bytes ↔ bytes.length ≤ most :=
  ⟨fun h => h most rfl, fun h _ hmost => Option.some.inj hmost ▸ h⟩

@[simp] theorem room_none (bytes : Bytes) : Room none bytes := by
  intro most hmost
  cases hmost

@[simp] theorem room_some : Room (some most) bytes ↔ bytes.length < most :=
  ⟨fun h => h most rfl, fun h _ hmost => Option.some.inj hmost ▸ h⟩

theorem Fits.of_append (h : Fits limit (front ++ bytes)) : Fits limit front := by
  cases limit with
  | none => exact fits_none front
  | some most =>
      rw [fits_some, List.length_append] at h
      exact fits_some.mpr (Nat.le_of_add_right_le h)

theorem fits_cut (limit : Option Nat) (bytes : Bytes) : Fits limit (cut limit bytes) := by
  cases limit with
  | none => exact fits_none bytes
  | some most => exact fits_some.mpr (List.length_take_le most bytes)

theorem cut_of_fits (h : Fits limit bytes) : cut limit bytes = bytes := by
  cases limit with
  | none => rfl
  | some most => exact List.take_of_length_le (fits_some.mp h)

/-- Where there is no room behind bytes that fit, nothing more is taken of what follows. -/
theorem cut_append_of_not_room (hfits : Fits limit front) (hroom : ¬ Room limit front) (bytes : Bytes) :
    cut limit (front ++ bytes) = front := by
  cases limit with
  | none => exact absurd (room_none front) hroom
  | some most =>
      rw [fits_some] at hfits
      rw [room_some, Nat.not_lt] at hroom
      rw [← Nat.le_antisymm hfits hroom]
      exact List.take_left

theorem not_fits_append_of_not_room (hroom : ¬ Room limit front) (hne : bytes ≠ []) :
    ¬ Fits limit (front ++ bytes) := by
  cases limit with
  | none => exact absurd (room_none front) hroom
  | some most =>
      have hpositive := List.length_pos_iff.mpr hne
      rw [room_some] at hroom
      rw [fits_some, List.length_append]
      omega

/-- Bytes that do not fit leave no room behind the front of them that does. -/
theorem not_room_cut (h : ¬ Fits limit bytes) : ¬ Room limit (cut limit bytes) := by
  cases limit with
  | none => exact absurd (fits_none bytes) h
  | some most =>
      rw [fits_some] at h
      rw [room_some, cut, List.length_take]
      omega

/-- What follows is cut as if nothing had been cut before. -/
theorem cut_cut_append (limit : Option Nat) (front bytes : Bytes) :
    cut limit (cut limit front ++ bytes) = cut limit (front ++ bytes) := by
  by_cases hfits : Fits limit front
  · rw [cut_of_fits hfits]
  · -- something was cut already, so nothing of what follows is taken
    rw [cut_append_of_not_room (fits_cut limit front) (not_room_cut hfits)]
    cases limit with
    | none => exact absurd (fits_none front) hfits
    | some most =>
        rw [fits_some, Nat.not_le] at hfits
        exact (List.take_append_of_le_length (Nat.le_of_lt hfits)).symm

/-- Behind the front that fits, bytes fit if they and all before them do, or if there are none. -/
theorem fits_cut_append_iff (limit : Option Nat) (front bytes : Bytes) :
    Fits limit (cut limit front ++ bytes) ↔ bytes = [] ∨ Fits limit (front ++ bytes) := by
  by_cases hnil : bytes = []
  · subst hnil
    rw [List.append_nil]
    exact ⟨fun _ => Or.inl rfl, fun _ => fits_cut limit front⟩
  · by_cases hfits : Fits limit front
    · rw [cut_of_fits hfits]
      exact ⟨Or.inr, fun h => h.resolve_left hnil⟩
    · -- there is no room behind what was cut, and the whole cannot fit as its front does not
      have hcut := not_fits_append_of_not_room (not_room_cut hfits) hnil
      refine ⟨fun h => absurd h hcut, ?_⟩
      rintro (h | h)
      · exact absurd h hnil
      · exact absurd h.of_append hfits

/-- What is cut behind a front that fits is a front of what follows. -/
theorem exists_cut_append (h : Fits limit front) (bytes : Bytes) :
    ∃ kept, cut limit (front ++ bytes) = front ++ kept ∧ kept <+: bytes := by
  cases limit with
  | none => exact ⟨bytes, rfl, List.prefix_rfl⟩
  | some most =>
      refine ⟨bytes.take (most - front.length), ?_, List.take_prefix _ bytes⟩
      rw [cut, List.take_append, List.take_of_length_le (fits_some.mp h)]

end Limits

/-! ## Sinks -/

namespace Sink

variable {ω : Type}

/-- What sending blocks makes of a sink, one after another, whether it succeeds or not. -/
def sendAll (sink : Sink ω) : List Block → ω → ω
  | [], s => s
  | block :: others, s => sendAll sink others (sink.send block s).2

theorem sendAll_append (sink : Sink ω) (first second : List Block) (s : ω) :
    sink.sendAll (first ++ second) s = sink.sendAll second (sink.sendAll first s) := by
  induction first generalizing s with
  | nil => rfl
  | cons block first ih => exact ih (sink.send block s).2

/-- No write fails while blocks are sent one after another. -/
def AllTaken (sink : Sink ω) : List Block → ω → Prop
  | [], _ => True
  | block :: others, s =>
      (sink.writeAll block.encode s).1 = .ok () ∧ AllTaken sink others (sink.send block s).2

instance decidableAllTaken (sink : Sink ω) : (blocks : List Block) → (s : ω) →
    Decidable (sink.AllTaken blocks s)
  | [], _ => isTrue trivial
  | block :: others, s =>
      match h : (sink.writeAll block.encode s).1, decidableAllTaken sink others (sink.send block s).2 with
      | .ok (), isTrue hothers => isTrue ⟨h, hothers⟩
      | .ok (), isFalse hothers => isFalse fun hall => hothers hall.2
      | .error _, _ => isFalse fun hall => nomatch h.symm.trans hall.1

/-- A sink, in states of some kind, takes bytes up to a limit and no further. -/
structure Keeps (sink : Sink ω) (limit : Option Nat) (taken : ω → Bytes) (sound : ω → Prop) : Prop where
  /-- Short of its limit it takes at least one of the bytes that it is offered, from the front. -/
  takes : ∀ bytes {s}, sound s → bytes ≠ [] → Room limit (taken s) →
    ∃ count, (sink.write bytes s).1 = .ok count ∧ 0 < count ∧ count ≤ bytes.length
      ∧ taken (sink.write bytes s).2 = taken s ++ bytes.take count
      ∧ Fits limit (taken s ++ bytes.take count)
  /-- At its limit it takes nothing, and may fail. -/
  refuses : ∀ bytes {s}, sound s → bytes ≠ [] → ¬ Room limit (taken s) →
    ((sink.write bytes s).1 = .ok 0 ∨ ∃ cause, (sink.write bytes s).1 = .error cause)
      ∧ taken (sink.write bytes s).2 = taken s
  /-- A flush takes nothing away and adds nothing. -/
  flush : ∀ {s}, sound s → taken (sink.flush s).2 = taken s
  sound_write : ∀ bytes {s}, sound s → sound (sink.write bytes s).2
  sound_flush : ∀ {s}, sound s → sound (sink.flush s).2

/-! ## One block after another -/

section Keeping

variable {sink : Sink ω} {limit : Option Nat} {taken : ω → Bytes} {sound : ω → Prop} {s : ω}

/-- What writing has come to, when these bytes would stand on the sink in the end: the front of them that
    fits is taken, and it is said whether that is all. -/
structure Written (limit : Option Nat) (taken : ω → Bytes) (sound : ω → Prop) (whole : Bytes)
    (answer : Except SystemError Unit × ω) : Prop where
  taken : taken answer.2 = cut limit whole
  outcome : answer.1 = .ok () ↔ Fits limit whole
  sound : sound answer.2

/-- A sink takes none of some bytes only at its limit, and then that is what was to be taken of them. -/
theorem Keeps.written_of_none {bytes : Bytes} (h : sink.Keeps limit taken sound) (hs : sound s)
    (hfits : Fits limit (taken s)) (hne : bytes ≠ [])
    (hnone : ∀ count, 0 < count → (sink.write bytes s).1 ≠ .ok count) (cause : SystemError) :
    Written limit taken sound (taken s ++ bytes) (.error cause, (sink.write bytes s).2) := by
  have hroom : ¬ Room limit (taken s) := by
    intro hroom
    obtain ⟨count, hcount, hpositive, -⟩ := h.takes bytes hs hne hroom
    exact hnone count hpositive hcount
  refine ⟨?_, ?_, h.sound_write bytes hs⟩
  · exact (h.refuses bytes hs hne hroom).2.trans (cut_append_of_not_room hfits hroom bytes).symm
  · constructor
    · intro hok
      cases hok
    · intro hall
      exact absurd hall (not_fits_append_of_not_room hroom hne)

/-- **However a sink cuts the bytes, it takes the front of them that fits.**  Induction on the writes: each
    takes some while there is room, and the one that takes none is the last. -/
theorem Keeps.writeAll (h : sink.Keeps limit taken sound) (bytes : Bytes) (hs : sound s)
    (hfits : Fits limit (taken s)) :
    Written limit taken sound (taken s ++ bytes) (sink.writeAll bytes s) := by
  fun_induction Sink.writeAll sink bytes s with
  | case1 s =>
      refine ⟨?_, ?_, hs⟩
      · rw [List.append_nil, cut_of_fits hfits]
      · rw [List.append_nil]
        exact ⟨fun _ => hfits, fun _ => rfl⟩
  | case2 bytes s hne cause after hwrite =>
      have hnone : ∀ count, 0 < count → (sink.write bytes s).1 ≠ .ok count := by
        intro count _ hok
        rw [hwrite] at hok
        cases hok
      -- a write that fails is the last, and so is one that takes nothing
      have hwritten := h.written_of_none hs hfits hne hnone cause
      rw [hwrite] at hwritten
      exact hwritten
  | case3 bytes s hne after hwrite =>
      have hnone : ∀ count, 0 < count → (sink.write bytes s).1 ≠ .ok count := by
        intro count hpositive hok
        rw [hwrite] at hok
        injection hok with hzero
        omega
      have hwritten := h.written_of_none hs hfits hne hnone .writeZero
      rw [hwrite] at hwritten
      exact hwritten
  | case4 bytes s hne count after hwrite hcount ih =>
      have hsound := h.sound_write bytes hs
      by_cases hroom : Room limit (taken s)
      · obtain ⟨size, hsize, -, -, htaken, hstill⟩ := h.takes bytes hs hne hroom
        rw [hwrite] at hsize htaken hsound
        injection hsize with hsize
        subst hsize
        have hwhole : taken s ++ bytes = taken after ++ bytes.drop count := by
          rw [htaken, List.append_assoc, List.take_append_drop]
        rw [hwhole]
        exact ih hsound (htaken.symm ▸ hstill)
      · -- at the limit no write takes anything
        obtain ⟨hzero | ⟨cause, herror⟩, -⟩ := h.refuses bytes hs hne hroom
        · rw [hwrite] at hzero
          injection hzero with hzero
          exact absurd hzero hcount
        · rw [hwrite] at herror
          cases herror

/-- The flush decides, if all bytes were taken; else there is none. -/
theorem send_eq_ok_iff (sink : Sink ω) (block : Block) (s : ω) :
    (sink.send block s).1 = .ok ()
      ↔ (sink.writeAll block.encode s).1 = .ok ()
        ∧ (sink.flush (sink.writeAll block.encode s).2).1 = .ok () := by
  rw [send]
  obtain ⟨outcome, after⟩ := sink.writeAll block.encode s
  cases outcome with
  | error cause => simp
  | ok done =>
      simp only
      obtain ⟨flushed, last⟩ := sink.flush after
      cases flushed with
      | error cause => simp
      | ok done => simp

/-- Behind a block there is a flush, or not even that. -/
theorem state_send (sink : Sink ω) (block : Block) (s : ω) :
    (sink.send block s).2 = (sink.writeAll block.encode s).2
      ∨ (sink.send block s).2 = (sink.flush (sink.writeAll block.encode s).2).2 := by
  rw [send]
  obtain ⟨outcome, after⟩ := sink.writeAll block.encode s
  cases outcome with
  | error cause => exact Or.inl rfl
  | ok done =>
      refine Or.inr ?_
      simp only
      obtain ⟨flushed, last⟩ := sink.flush after
      cases flushed <;> rfl

/-- A block that is sent was taken as a whole and flushed behind, and nothing else was done to the sink. -/
theorem send_of_ok {block : Block} (h : (sink.send block s).1 = .ok ()) :
    (sink.writeAll block.encode s).1 = .ok ()
      ∧ (sink.flush (sink.writeAll block.encode s).2).1 = .ok ()
      ∧ (sink.send block s).2 = (sink.flush (sink.writeAll block.encode s).2).2 := by
  obtain ⟨htaken, hflushed⟩ := (send_eq_ok_iff sink block s).mp h
  refine ⟨htaken, hflushed, ?_⟩
  have hwrite : sink.writeAll block.encode s = (.ok (), (sink.writeAll block.encode s).2) :=
    Prod.ext htaken rfl
  have hflush : sink.flush (sink.writeAll block.encode s).2
      = (.ok (), (sink.flush (sink.writeAll block.encode s).2).2) := Prod.ext hflushed rfl
  rw [send, hwrite]
  simp only
  rw [hflush]

/-- A block leaves the front of its bytes that fits, whether it is sent or not. -/
theorem Keeps.send (h : sink.Keeps limit taken sound) (block : Block) (hs : sound s)
    (hfits : Fits limit (taken s)) :
    taken (sink.send block s).2 = cut limit (taken s ++ block.encode) ∧ sound (sink.send block s).2 := by
  have hwritten := h.writeAll block.encode hs hfits
  rcases state_send sink block s with hsame | hflushed
  · rw [hsame]
    exact ⟨hwritten.taken, hwritten.sound⟩
  · rw [hflushed]
    exact ⟨(h.flush hwritten.sound).trans hwritten.taken, h.sound_flush hwritten.sound⟩

/-- **Of blocks that are sent the front stands on the sink that fits its limit.**  Induction on the
    blocks. -/
theorem Keeps.sendAll (h : sink.Keeps limit taken sound) (blocks : List Block) (hs : sound s)
    (hfits : Fits limit (taken s)) :
    taken (sink.sendAll blocks s) = cut limit (taken s ++ blocks.flatMap Block.encode)
      ∧ sound (sink.sendAll blocks s) := by
  induction blocks generalizing s with
  | nil =>
      rw [List.flatMap_nil, List.append_nil, cut_of_fits hfits]
      exact ⟨rfl, hs⟩
  | cons block others ih =>
      obtain ⟨htaken, hsound⟩ := h.send block hs hfits
      obtain ⟨hall, hlast⟩ := ih hsound (htaken.symm ▸ fits_cut _ _)
      refine ⟨?_, hlast⟩
      rw [Sink.sendAll, hall, htaken, cut_cut_append, List.flatMap_cons, List.append_assoc]

/-- **A block is sent exactly if it fits behind all that came before it**, or is empty, and the flush behind
    it succeeds. -/
theorem Keeps.send_iff (h : sink.Keeps limit taken sound) (earlier : List Block) (block : Block)
    (hs : sound s) (hfits : Fits limit (taken s)) :
    (sink.send block (sink.sendAll earlier s)).1 = .ok ()
      ↔ (sink.flush (sink.writeAll block.encode (sink.sendAll earlier s)).2).1 = .ok ()
        ∧ (block.encode = [] ∨ Fits limit (taken s ++ (earlier ++ [block]).flatMap Block.encode)) := by
  obtain ⟨htaken, hsound⟩ := h.sendAll earlier hs hfits
  have hwritten := h.writeAll block.encode hsound (htaken.symm ▸ fits_cut _ _)
  have hall : taken s ++ (earlier ++ [block]).flatMap Block.encode
      = taken s ++ earlier.flatMap Block.encode ++ block.encode := by
    rw [List.flatMap_append, List.flatMap_singleton, List.append_assoc]
  rw [send_eq_ok_iff, hwritten.outcome, htaken, fits_cut_append_iff, hall, and_comm]

/-- A block that is sent stands on the sink as a whole, behind what was there. -/
theorem Keeps.taken_of_send (h : sink.Keeps limit taken sound) {block : Block} (hs : sound s)
    (hfits : Fits limit (taken s)) (hsent : (sink.send block s).1 = .ok ()) :
    taken (sink.send block s).2 = taken s ++ block.encode := by
  have hall := (h.writeAll block.encode hs hfits).outcome.mp (send_of_ok hsent).1
  rw [(h.send block hs hfits).1, cut_of_fits hall]

/-- Where no write fails, the blocks fit. -/
theorem Keeps.fits_of_allTaken (h : sink.Keeps limit taken sound) (blocks : List Block) (hs : sound s)
    (hfits : Fits limit (taken s)) (hall : sink.AllTaken blocks s) :
    Fits limit (taken s ++ blocks.flatMap Block.encode) := by
  induction blocks generalizing s with
  | nil =>
      rw [List.flatMap_nil, List.append_nil]
      exact hfits
  | cons block others ih =>
      obtain ⟨htaken, hothers⟩ := hall
      -- this block was taken as a whole, so the others are sent behind all of it
      have hwhole := (h.writeAll block.encode hs hfits).outcome.mp htaken
      obtain ⟨hsent, hsound⟩ := h.send block hs hfits
      rw [cut_of_fits hwhole] at hsent
      have hrest := ih hsound (hsent.symm ▸ hwhole) hothers
      rw [hsent, List.append_assoc] at hrest
      rw [List.flatMap_cons]
      exact hrest

/-- **Of blocks that are sent a front stands on the sink**, and all of them if no write fails. -/
theorem Keeps.exists_sendAll (h : sink.Keeps limit taken sound) (blocks : List Block) (hs : sound s)
    (hfits : Fits limit (taken s)) :
    ∃ bytes, taken (sink.sendAll blocks s) = taken s ++ bytes
      ∧ bytes <+: blocks.flatMap Block.encode
      ∧ (sink.AllTaken blocks s → bytes = blocks.flatMap Block.encode) := by
  obtain ⟨hall, -⟩ := h.sendAll blocks hs hfits
  obtain ⟨kept, hkept, hfront⟩ := exists_cut_append hfits (blocks.flatMap Block.encode)
  refine ⟨kept, hall.trans hkept, hfront, ?_⟩
  intro htaken
  rw [cut_of_fits (h.fits_of_allTaken blocks hs hfits htaken)] at hkept
  exact (List.append_cancel_left hkept).symm

/-- A sink, in states of some kind, takes everything, and flushes. -/
structure Open (sink : Sink ω) (taken : ω → Bytes) (sound : ω → Prop) : Prop where
  keeps : sink.Keeps none taken sound
  flush : ∀ {s}, sound s → (sink.flush s).1 = .ok ()

/-- An open sink is sent every block, and stays open. -/
theorem Open.send (h : sink.Open taken sound) (block : Block) (hs : sound s) :
    (sink.send block s).1 = .ok ()
      ∧ taken (sink.send block s).2 = taken s ++ block.encode
      ∧ sound (sink.send block s).2 := by
  have hfits : Fits none (taken s) := fits_none (taken s)
  have hwritten := h.keeps.writeAll block.encode hs hfits
  have hsent : (sink.send block s).1 = .ok () := by
    rw [send_eq_ok_iff]
    exact ⟨hwritten.outcome.mpr (fits_none _), h.flush hwritten.sound⟩
  exact ⟨hsent, h.keeps.taken_of_send hs hfits hsent, (h.keeps.send block hs hfits).2⟩

end Keeping

/-- Only the sink makes sending fail. -/
theorem stream_of_send {sink : Sink ω} {block : Block} {s : ω} {failure : Failure}
    (h : (sink.send block s).1 = .error failure) : ∃ cause, failure = .stream cause := by
  rw [send] at h
  generalize sink.writeAll block.encode s = written at h
  obtain ⟨outcome, after⟩ := written
  cases outcome with
  | error cause =>
      injection h with heq
      exact ⟨cause, heq.symm⟩
  | ok done =>
      simp only at h
      generalize sink.flush after = flushed at h
      obtain ⟨answer, last⟩ := flushed
      cases answer with
      | error cause =>
          injection h with heq
          exact ⟨cause, heq.symm⟩
      | ok done => cases h

end Sink

/-- What sending blocks makes of an output, one after another, whether it succeeds or not. -/
def Wire.sendAll {ω : Type} [sink : Sink ω] (blocks : List Block) (output : ω) : ω :=
  sink.sendAll blocks output

theorem Wire.sendAll_append {ω : Type} [sink : Sink ω] (first second : List Block) (output : ω) :
    Wire.sendAll (first ++ second) output = Wire.sendAll second (Wire.sendAll first output) :=
  sink.sendAll_append first second output

/-! ## An unsteady sink -/

/-- A sink that takes one, two or three bytes in turn, up to a limit, and then now fails and now takes nothing.
    Now and then a flush fails.  All this hangs on how often the sink has been asked for something. -/
structure Unsteady (limit : Nat) where
  written : Bytes := []
  asked : Nat := 0
  deriving DecidableEq

namespace Unsteady

variable {limit : Nat}

/-- How many of `count` bytes the next write takes. -/
def capacity (s : Unsteady limit) (count : Nat) : Nat :=
  min (min count (1 + s.asked % 3)) (limit - s.written.length)

instance sink : Sink (Unsteady limit) where
  write := fun bytes s =>
    if s.written.length < limit then
      (.ok (s.capacity bytes.length), ⟨s.written ++ bytes.take (s.capacity bytes.length), s.asked + 1⟩)
    else if s.asked % 2 = 0 then (.error (.note "pipe closed"), ⟨s.written, s.asked + 1⟩)
    else (.ok 0, ⟨s.written, s.asked + 1⟩)
  flush := fun s =>
    (if s.asked % 4 = 3 then .error (.note "flush failed") else .ok (), ⟨s.written, s.asked + 1⟩)

theorem keeps (limit : Nat) : (sink : Sink (Unsteady limit)).Keeps (some limit) written fun _ => True where
  takes := by
    intro bytes s _ hne hroom
    have hpositive := List.length_pos_iff.mpr hne
    rw [room_some] at hroom
    have hwrite : sink.write bytes s = (.ok (s.capacity bytes.length),
        ⟨s.written ++ bytes.take (s.capacity bytes.length), s.asked + 1⟩) := if_pos hroom
    rw [hwrite]
    refine ⟨s.capacity bytes.length, rfl, ?_, ?_, rfl, ?_⟩
    · rw [capacity]
      omega
    · rw [capacity]
      omega
    · rw [fits_some, List.length_append, List.length_take, capacity]
      omega
  refuses := by
    intro bytes s _ _ hroom
    rw [room_some] at hroom
    have hwrite : sink.write bytes s = if s.asked % 2 = 0
        then (.error (.note "pipe closed"), ⟨s.written, s.asked + 1⟩)
        else (.ok 0, ⟨s.written, s.asked + 1⟩) := if_neg hroom
    rw [hwrite]
    split
    · exact ⟨Or.inr ⟨_, rfl⟩, rfl⟩
    · exact ⟨Or.inl rfl, rfl⟩
  flush := fun _ => rfl
  sound_write := fun _ _ _ => trivial
  sound_flush := fun _ => trivial

end Unsteady

end ModuleMapper
