import ModuleMapper.Proofs.Names

/-!
# Locations — where a path leads, by its names alone

  The files decide whether a path can be followed, but not where to: that is said by its solid names, and
  by where it starts (`target`).  A path that is followed leads to its target (`target_of_lookup`), and a
  new entry is put at the target of its path (`target_of_slot`).
-/

namespace ModuleMapper

namespace Place

/-- Where a name leads.  From a directory that has been removed only `..` leads to an entry. -/
def aim (workingDir : Location) (place : Place) (name : Bytes) : Option Place :=
  if Path.isFiller name then some place
  else match place with
    | .adrift => if name = Path.up then some (.entry workingDir.tail) else none
    | .entry location =>
      if name = Path.up then some (.entry location.tail) else some (.entry (name :: location))

/-- Where names lead, one after the other. -/
def aimAll (workingDir : Location) : Place → List Bytes → Option Place
  | place, [] => some place
  | place, name :: others => (place.aim workingDir name).bind fun next => aimAll workingDir next others

variable {workingDir : Location} {place : Place}

theorem aim_of_isFiller {name : Bytes} (h : Path.isFiller name = true) :
    place.aim workingDir name = some place := if_pos h

theorem aimAll_append (first second : List Bytes) :
    place.aimAll workingDir (first ++ second)
      = (place.aimAll workingDir first).bind fun next => next.aimAll workingDir second := by
  induction first generalizing place with
  | nil => rfl
  | cons name first ih =>
      rw [List.cons_append, aimAll, aimAll]
      cases place.aim workingDir name with
      | none => rfl
      | some next => exact ih

/-- Only solid names count. -/
theorem aimAll_solidOf (list : List Bytes) :
    place.aimAll workingDir (Path.solidOf list) = place.aimAll workingDir list := by
  induction list generalizing place with
  | nil => rfl
  | cons name others ih =>
      cases hfiller : Path.isFiller name with
      | true =>
          rw [Path.solidOf_cons_of_isFiller hfiller, aimAll, aim_of_isFiller hfiller]
          exact ih
      | false =>
          rw [Path.solidOf_cons hfiller, aimAll, aimAll]
          cases place.aim workingDir name with
          | none => rfl
          | some next => exact ih

/-- Without `..`, names lead down. -/
theorem aimAll_entry {location : Location} {list : List Bytes} (h : Path.up ∉ list) :
    aimAll workingDir (.entry location) list
      = some (.entry ((Path.solidOf list).reverse ++ location)) := by
  induction list generalizing location with
  | nil => rfl
  | cons name others ih =>
      rw [List.mem_cons, not_or] at h
      cases hfiller : Path.isFiller name with
      | true =>
          rw [Path.solidOf_cons_of_isFiller hfiller, aimAll, aim_of_isFiller hfiller]
          exact ih h.2
      | false =>
          rw [Path.solidOf_cons hfiller, aimAll, aim, hfiller, if_neg Bool.false_ne_true]
          simp only [if_neg (Ne.symm h.1)]
          rw [Option.bind_some, ih h.2, List.reverse_cons, List.append_assoc, List.singleton_append]

/-- Without `..`, no name leads out of a directory that has been removed. -/
theorem aimAll_adrift {list : List Bytes} (h : Path.up ∉ list) (hsolid : Path.solidOf list ≠ []) :
    aimAll workingDir .adrift list = none := by
  induction list with
  | nil => exact absurd rfl hsolid
  | cons name others ih =>
      rw [List.mem_cons, not_or] at h
      cases hfiller : Path.isFiller name with
      | true =>
          rw [Path.solidOf_cons_of_isFiller hfiller] at hsolid
          rw [aimAll, aim_of_isFiller hfiller]
          exact ih h.2 hsolid
      | false =>
          rw [aimAll, aim, hfiller, if_neg Bool.false_ne_true]
          simp only [if_neg (Ne.symm h.1)]
          rfl

end Place

namespace FileSystem

variable {files : FileSystem} {path : Path} {place : Place}

/-- Where a path leads, if it can be followed. -/
def target (files : FileSystem) (path : Path) : Option Place :=
  (files.start path).aimAll files.workingDir (Path.solid path)

theorem solidOf_steps (path : Path) : Path.solidOf (steps path) = Path.solid path := by
  unfold steps Path.solid Path.solidOf
  rw [List.filter_filter]
  refine List.filter_congr fun name _ => ?_
  cases name with
  | nil => rfl
  | cons b rest => simp

theorem ne_nil_of_mem_steps {name : Bytes} (h : name ∈ steps path) : name ≠ [] := by
  simpa using (List.mem_filter.mp h).2

/-- What a path asks for behind its last name: the directory itself, if it ends in a slash. -/
def tailOf (path : Path) : List Bytes := if path.getLast? = some Byte.slash then [Path.here] else []

theorem eq_here_of_mem_tailOf {name : Bytes} (h : name ∈ tailOf path) : name = Path.here := by
  unfold tailOf at h
  split at h
  · exact List.mem_singleton.mp h
  · cases h

theorem solidOf_tailOf (path : Path) : Path.solidOf (tailOf path) = [] := by
  unfold tailOf
  split
  · rfl
  · rfl

theorem ne_nil_of_mem_tailOf {name : Bytes} (h : name ∈ tailOf path) : name ≠ [] := by
  rw [eq_here_of_mem_tailOf h]
  exact List.cons_ne_nil _ _

/-- Where a name leads in the files.  Whatever leads on from an entry is a directory. -/
inductive Leads (files : FileSystem) : Place → Bytes → Place → Prop where
  | stayAdrift : Leads files .adrift Path.here .adrift
  | leaveAdrift : Leads files .adrift Path.up (.entry files.workingDir.tail)
  | stay {location : Location} {time : Timestamp} :
      files.find? location = some (.directory time) →
      Leads files (.entry location) Path.here (.entry location)
  | leave {location : Location} {time : Timestamp} :
      files.find? location = some (.directory time) →
      Leads files (.entry location) Path.up (.entry location.tail)
  | enter {location : Location} {time : Timestamp} {name : Bytes} :
      files.find? location = some (.directory time) →
      name ≠ Path.here → name ≠ Path.up → name.length ≤ maxName →
      files.find? (name :: location) ≠ none →
      Leads files (.entry location) name (.entry (name :: location))

/-- Following a name leads to where it leads, and fails if it leads nowhere. -/
theorem step_eq_ok_iff {name : Bytes} {next : Place} :
    files.step place name = .ok next ↔ files.Leads place name next := by
  constructor
  · intro h
    unfold step at h
    split at h
    · split at h
      · next hhere =>
          injection h with h
          rw [hhere, ← h]
          exact .stayAdrift
      · split at h
        · next hup =>
            injection h with h
            rw [hup, ← h]
            exact .leaveAdrift
        · cases h
    · split at h
      · cases h
      · cases h
      · next time hdirectory =>
          split at h
          · next hhere =>
              injection h with h
              rw [hhere, ← h]
              exact .stay hdirectory
          · next hhere =>
              split at h
              · next hup =>
                  injection h with h
                  rw [hup, ← h]
                  exact .leave hdirectory
              · next hup =>
                  split at h
                  · cases h
                  · next hlength =>
                      split at h
                      · next hsome =>
                          injection h with h
                          rw [← h]
                          exact .enter hdirectory hhere hup (Nat.le_of_not_lt hlength)
                            (Option.isSome_iff_ne_none.mp hsome)
                      · cases h
  · intro h
    cases h with
    | stayAdrift => rfl
    | leaveAdrift => rfl
    | stay hdirectory =>
        rw [step, hdirectory]
        rfl
    | leave hdirectory =>
        rw [step, hdirectory]
        rfl
    | enter hdirectory hhere hup hlength hsome =>
        rw [step, hdirectory]
        simp only [if_neg hhere, if_neg hup, if_neg (Nat.not_lt.mpr hlength),
          if_pos (Option.isSome_iff_ne_none.mpr hsome)]

/-- A name that is followed leads to where it aims. -/
theorem aim_of_step {name : Bytes} {next : Place} (hname : name ≠ [])
    (h : files.step place name = .ok next) : place.aim files.workingDir name = some next := by
  cases step_eq_ok_iff.mp h with
  | stayAdrift | leaveAdrift | stay | leave => rfl
  | enter _ hhere hup _ _ =>
      have hfiller : Path.isFiller name = false := by simp [Path.isFiller, hname, hhere]
      rw [Place.aim, hfiller, if_neg Bool.false_ne_true]
      exact if_neg hup

/-- Names that are followed lead to where they aim.  Induction on the names. -/
theorem aimAll_of_walk {list : List Bytes} {next : Place} (hlist : ∀ name ∈ list, name ≠ [])
    (h : files.walk place list = .ok next) : place.aimAll files.workingDir list = some next := by
  induction list generalizing place with
  | nil =>
      injection h with h
      rw [h]
      rfl
  | cons name others ih =>
      rw [walk] at h
      split at h
      · next between hstep =>
          rw [Place.aimAll, aim_of_step (hlist name List.mem_cons_self) hstep]
          exact ih (fun name hmem => hlist name (List.mem_cons_of_mem _ hmem)) h
      · cases h

/-- **A path that is followed leads to its target.** -/
theorem target_of_lookup (h : files.lookup path = .ok place) : files.target path = some place := by
  unfold lookup at h
  split at h
  · cases h
  · have haim := aimAll_of_walk (fun name hmem => (List.mem_append.mp hmem).elim
      ne_nil_of_mem_steps ne_nil_of_mem_tailOf) h
    rw [← Place.aimAll_solidOf] at haim
    rw [target, ← List.append_nil (Path.solid path), ← solidOf_tailOf path, ← solidOf_steps,
      ← Path.solidOf_append]
    exact haim

/-- What is found at the end of a path lies at its target. -/
theorem target_of_stat {entry : Entry} (h : files.stat path = .ok entry) :
    files.target path = some .adrift
      ∨ ∃ location, files.target path = some (.entry location)
        ∧ files.find? location = some entry := by
  unfold stat at h
  split at h
  · cases h
  · next hlookup => exact Or.inl (target_of_lookup hlookup)
  · next location hlookup =>
      split at h
      · next found hfind =>
          injection h with h
          subst h
          exact Or.inr ⟨location, target_of_lookup hlookup, hfind⟩
      · cases h

/-- What a slot stands for: all steps of the path but the last lead to a directory, and the last can be the
    name of an entry. -/
theorem exists_of_slot {slot : Slot} (h : files.slot path = .ok slot) :
    checkPath path = .ok ()
      ∧ (∃ init, steps path = init ++ [slot.name]
        ∧ files.walk (files.start path) init = .ok (.entry slot.directory))
      ∧ (∃ time, files.find? slot.directory = some (.directory time))
      ∧ slot.name ≠ Path.here ∧ slot.name ≠ Path.up ∧ slot.name.length ≤ maxName := by
  rw [FileSystem.slot] at h
  split at h
  · cases h
  · next hcheck =>
      split at h
      · cases h
      · next name hlast =>
          obtain ⟨init, hinit⟩ := List.getLast?_eq_some_iff.mp hlast
          rw [hinit, List.dropLast_concat] at h
          split at h
          · cases h
          · split at h
            · cases h
            · cases h
          · next location hwalk =>
              split at h
              · cases h
              · cases h
              · next time hfind =>
                  split at h
                  · cases h
                  · next hdots =>
                      rw [not_or] at hdots
                      split at h
                      · cases h
                      · next hlength =>
                          injection h with h
                          subst h
                          exact ⟨hcheck, ⟨init, hinit, hwalk⟩, ⟨time, hfind⟩, hdots.1, hdots.2,
                            Nat.le_of_not_lt hlength⟩

/-- **A new entry is put at the target of its path**, into a directory. -/
theorem target_of_slot {slot : Slot} (h : files.slot path = .ok slot) :
    files.target path = some (.entry (slot.name :: slot.directory))
      ∧ ∃ time, files.find? slot.directory = some (.directory time) := by
  obtain ⟨-, ⟨init, hinit, hwalk⟩, hdirectory, hhere, hup, -⟩ := exists_of_slot h
  refine ⟨?_, hdirectory⟩
  have hne : ∀ name ∈ init ++ [slot.name], name ≠ [] := fun name hmem =>
    ne_nil_of_mem_steps (hinit ▸ hmem)
  have hname : slot.name ≠ [] := hne _ (List.mem_append_right _ (List.mem_singleton_self _))
  have hfiller : Path.isFiller slot.name = false := by simp [Path.isFiller, hname, hhere]
  rw [target, ← solidOf_steps, Place.aimAll_solidOf, hinit, Place.aimAll_append,
    aimAll_of_walk (fun name hmem => hne name (List.mem_append_left _ hmem)) hwalk]
  show (Place.aim files.workingDir (.entry slot.directory) slot.name).bind _ = _
  rw [Place.aim, hfiller, if_neg Bool.false_ne_true]
  simp only [if_neg hup]
  rfl

end FileSystem

end ModuleMapper
