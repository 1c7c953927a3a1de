import ModuleMapper.Proofs.Exchanges

/-!
# Course — the turns of a run

  A run goes by turns: a block is heard, and then it is replied to.  `course` lists the turns of a run in
  their order, each with the connection as it is between the two.

  Behind a turn whose reply gets through, the run is that of the connection behind the reply, and so are
  its other turns.  A turn whose reply fails is the last one, and the run ends with it
  (`course_eq_append_cons`).
-/

namespace ModuleMapper

/-- A block that was heard, and the connection that has heard it and not replied yet. -/
structure Turn (σ : Type) (ω : Type := OutputStream) where
  block : Block
  connection : Connection σ ω

namespace Turn

variable {σ ω : Type} [Sink ω]

/-- What replying does to the connection. -/
def reply (mapper : Mapper σ) (turn : Turn σ ω) : Except Failure Unit × Connection σ ω :=
  Connection.reply mapper turn.block turn.connection

/-- Does the reply get through? -/
def isReplied (mapper : Mapper σ) (turn : Turn σ ω) : Bool :=
  match (turn.reply mapper).1 with
  | .ok () => true
  | .error _ => false

theorem isReplied_of_ok {mapper : Mapper σ} {turn : Turn σ ω} (h : (turn.reply mapper).1 = .ok ()) :
    turn.isReplied mapper = true := by
  rw [isReplied, h]

theorem isReplied_of_error {mapper : Mapper σ} {turn : Turn σ ω} {failure : Failure}
    (h : (turn.reply mapper).1 = .error failure) : turn.isReplied mapper = false := by
  rw [isReplied, h]

@[simp] theorem reader_reply (mapper : Mapper σ) (turn : Turn σ ω) :
    (turn.reply mapper).2.reader = turn.connection.reader :=
  Connection.reader_reply mapper turn.block turn.connection

end Turn

namespace Connection

variable {σ ω : Type}

/-- The connection once its reader has tried to read a block. -/
def listened (c : Connection σ ω) : Connection σ ω := { c with reader := c.reader.readBlock.2 }

variable [Sink ω]

/-- The turns of a run: every block that is heard, up to the first whose reply fails. -/
def course (mapper : Mapper σ) (c : Connection σ ω) : List (Turn σ ω) :=
  match _ : c.reader.readBlock.1 with
  | .error _ => []
  | .ok block =>
    if _ : block = [] then []
    else
      ⟨block, c.listened⟩ ::
        match (Turn.reply mapper ⟨block, c.listened⟩).1 with
        | .error _ => []
        | .ok () => course mapper (Turn.reply mapper ⟨block, c.listened⟩).2
termination_by c.reader.remaining
decreasing_by
  rw [Turn.reader_reply]
  exact Wire.Reader.remaining_readBlock_lt (by assumption) (by assumption)

variable {mapper : Mapper σ} {c : Connection σ ω} {block : Block} {failure : Failure}

theorem course_of_error (h : c.reader.readBlock.1 = .error failure) : course mapper c = [] := by
  rw [course]
  split
  · rfl
  · next hblock =>
      rw [h] at hblock
      cases hblock

theorem course_of_end (h : c.reader.readBlock.1 = .ok []) : course mapper c = [] := by
  rw [course]
  split
  · rfl
  · next hblock =>
      rw [h] at hblock
      injection hblock with hsame
      rw [dif_pos hsame.symm]

theorem course_of_block (h : c.reader.readBlock.1 = .ok block) (hne : block ≠ []) :
    course mapper c = ⟨block, c.listened⟩ ::
      match (Turn.reply mapper ⟨block, c.listened⟩).1 with
      | .error _ => []
      | .ok () => course mapper (Turn.reply mapper ⟨block, c.listened⟩).2 := by
  rw [course]
  split
  · next hblock =>
      rw [h] at hblock
      cases hblock
  · next hblock =>
      rw [h] at hblock
      injection hblock with hsame
      subst hsame
      rw [dif_neg hne]

/-- The first turn of a run is the block that its reader gives. -/
theorem exists_of_course_eq_cons {turn : Turn σ ω} {later : List (Turn σ ω)}
    (h : course mapper c = turn :: later) :
    ∃ block, c.reader.readBlock.1 = .ok block ∧ block ≠ [] ∧ turn = ⟨block, c.listened⟩
      ∧ later = match (turn.reply mapper).1 with
        | .error _ => []
        | .ok () => course mapper (turn.reply mapper).2 := by
  cases hblock : c.reader.readBlock.1 with
  | error failure =>
      rw [course_of_error hblock] at h
      cases h
  | ok block =>
      by_cases hne : block = []
      · subst hne
        rw [course_of_end hblock] at h
        cases h
      · rw [course_of_block hblock hne] at h
        injection h with hturn hlater
        subst hturn
        exact ⟨block, rfl, hne, rfl, hlater.symm⟩

/-- The blocks that a run hears are not empty.  Induction on the blocks of the reader. -/
theorem block_ne_nil_of_course {turn : Turn σ ω} (h : turn ∈ course mapper c) : turn.block ≠ [] := by
  fun_induction course mapper c with
  | case1 => cases h
  | case2 => cases h
  | case3 c block hblock hne ih =>
      rcases List.mem_cons.mp h with hturn | hlater
      · rw [hturn]
        exact hne
      · split at hlater
        · cases hlater
        · exact ih hlater

/-- Behind a block that is replied to the run goes on. -/
theorem run_of_reply (h : c.reader.readBlock.1 = .ok block) (hne : block ≠ [])
    (hreply : (Turn.reply mapper ⟨block, c.listened⟩).1 = .ok ()) :
    run mapper c = run mapper (Turn.reply mapper ⟨block, c.listened⟩).2 := by
  have hexchange : exchange mapper c = (.ok true, (Turn.reply mapper ⟨block, c.listened⟩).2) := by
    rw [exchange_of_block h hne]
    show (Except.map _ (Turn.reply mapper ⟨block, c.listened⟩).1, _) = _
    rw [hreply]
    rfl
  rw [run_of_true (congrArg Prod.fst hexchange), hexchange]

/-- A reply that fails ends the run. -/
theorem run_of_reply_error (h : c.reader.readBlock.1 = .ok block) (hne : block ≠ [])
    (hreply : (Turn.reply mapper ⟨block, c.listened⟩).1 = .error failure) :
    run mapper c
      = (.error failure, (Turn.reply mapper ⟨block, c.listened⟩).2.enter .failed) := by
  have hexchange : exchange mapper c
      = (.error failure, (Turn.reply mapper ⟨block, c.listened⟩).2) := by
    rw [exchange_of_block h hne]
    show (Except.map _ (Turn.reply mapper ⟨block, c.listened⟩).1, _) = _
    rw [hreply]
    rfl
  rw [run_of_error (congrArg Prod.fst hexchange), hexchange]

/-- **What a turn makes of the run.**  If its reply gets through, the run and its other turns are those of
    the connection behind the reply; if not, the turn is the last and the run ends with its failure.
    Induction on the turns in front of it. -/
theorem course_eq_append_cons {earlier later : List (Turn σ ω)} {turn : Turn σ ω}
    (h : course mapper c = earlier ++ turn :: later) :
    ((turn.reply mapper).1 = .ok () →
        run mapper c = run mapper (turn.reply mapper).2
          ∧ later = course mapper (turn.reply mapper).2)
      ∧ ∀ failure, (turn.reply mapper).1 = .error failure →
        run mapper c = (.error failure, (turn.reply mapper).2.enter .failed) ∧ later = [] := by
  induction earlier generalizing c with
  | nil =>
      obtain ⟨block, hblock, hne, rfl, hlater⟩ := exists_of_course_eq_cons h
      constructor
      · intro hreply
        rw [hreply] at hlater
        exact ⟨run_of_reply hblock hne hreply, hlater⟩
      · intro failure hreply
        rw [hreply] at hlater
        exact ⟨run_of_reply_error hblock hne hreply, hlater⟩
  | cons first earlier ih =>
      obtain ⟨block, hblock, hne, rfl, hlater⟩ := exists_of_course_eq_cons h
      cases hreply : (Turn.reply mapper ⟨block, c.listened⟩).1 with
      | error failure =>
          -- nothing follows a reply that fails
          rw [hreply] at hlater
          exact absurd hlater (List.append_ne_nil_of_right_ne_nil _ (List.cons_ne_nil _ _))
      | ok done =>
          rw [hreply] at hlater
          rw [run_of_reply hblock hne hreply]
          exact ih hlater.symm

end Connection

end ModuleMapper
