import ModuleMapper.Proofs.Directories

/-!
# Presence — directories that are there

  A directory that is created is there afterwards (`isDirectory_of_makeDirectories`), and one that is there
  is not created again.  Where no name of a path is missing, nothing is created at all, even if the path
  cannot be followed to its end (`makeDirectories_of_walk`).

  So whatever is found at the end of a path, the directory that it lies in can be created once more, and
  that changes nothing (`makeDirectories_of_stat`).  And what can be followed from where the process stands
  is not missing behind the path of that directory (`Standing.walk_workingDir_append`).
-/

namespace ModuleMapper

namespace FileSystem

variable {files grown : FileSystem} {path : Path} {place next : Place} {name : Bytes}

/-! ## The steps of a path -/

theorem steps_append_slash (front rest : Path) :
    steps (front ++ Byte.slash :: rest) = steps front ++ steps rest := by
  rw [steps, Path.names_append_slash, List.filter_append]
  rfl

/-- A gap adds no step. -/
theorem steps_append_gap (base tail : Path) :
    steps (base ++ Path.gap base ++ tail) = steps base ++ steps tail := by
  by_cases h : base = [] ∨ base.getLast? = some Byte.slash
  · rw [show Path.gap base = [] from if_pos h, List.append_nil]
    rcases h with hnil | hlast
    · rw [hnil]
      rfl
    · obtain ⟨init, hinit⟩ := List.getLast?_eq_some_iff.mp hlast
      rw [hinit, List.append_assoc, List.singleton_append, steps_append_slash, steps_append_slash]
      show _ = steps init ++ [] ++ steps tail
      rw [List.append_nil]
  · rw [show Path.gap base = [Byte.slash] from if_neg h, List.append_assoc, List.singleton_append]
    exact steps_append_slash base tail

theorem steps_join {base tail : Path} (h : tail.isAbsolute = false) :
    steps (base.join tail) = steps base ++ steps tail := by
  rw [Path.join_of_relative base h]
  exact steps_append_gap base tail

/-- Behind the steps of a parent there is one more. -/
theorem exists_steps_of_parent? {parent : Path} (hparent : path.parent? = some parent)
    (hsolid : Path.solid path ≠ []) :
    ∃ name more, steps path = steps parent ++ name :: more := by
  obtain ⟨rest, hrest⟩ := Path.exists_of_parent? hparent
  have hsteps : steps path = steps parent ++ steps rest := by
    rw [hrest]
    exact steps_append_gap parent rest
  cases hmore : steps rest with
  | cons name more => exact ⟨name, more, by rw [hsteps, hmore]⟩
  | nil =>
      -- the last solid name of the path is not one of its parent
      rw [hmore, List.append_nil] at hsteps
      have hsame : Path.solid path = (Path.solid path).dropLast := by
        rw [← (Path.solid_of_parent? hparent).1, ← solidOf_steps, ← solidOf_steps, hsteps]
      have hlength := congrArg List.length hsame
      rw [List.length_dropLast] at hlength
      have hpos := List.length_pos_iff.mpr hsolid
      omega

/-- What can be followed can be followed up to anywhere. -/
theorem exists_of_walk_append {first second : List Bytes}
    (h : files.walk place (first ++ second) = .ok next) :
    ∃ between, files.walk place first = .ok between ∧ files.walk between second = .ok next := by
  rw [walk_append] at h
  cases hfirst : files.walk place first with
  | error cause =>
      rw [hfirst] at h
      cases h
  | ok between =>
      rw [hfirst] at h
      exact ⟨between, rfl, h⟩

/-! ## Paths that lead to a directory -/

/-- What a name leads on from is a directory. -/
theorem Leads.here (h : files.Leads place name next) : files.Leads place Path.here place := by
  cases h with
  | stayAdrift => exact .stayAdrift
  | leaveAdrift => exact .stayAdrift
  | stay hdirectory => exact .stay hdirectory
  | leave hdirectory => exact .stay hdirectory
  | enter hdirectory _ _ _ _ => exact .stay hdirectory

/-- A directory may be asked for behind a final slash. -/
theorem walk_tailOf (h : files.Leads place Path.here place) (path : Path) :
    files.walk place (tailOf path) = .ok place := by
  rw [tailOf]
  split
  · rw [walk, step_eq_ok_iff.mpr h]
    rfl
  · rfl

/-- **A path leads to a directory** if its steps do. -/
theorem isDirectory_of_walk (hcheck : checkPath path = .ok ())
    (hwalk : files.walk (files.start path) (steps path) = .ok place)
    (hhere : files.Leads place Path.here place) : files.isDirectory path = true := by
  have hlookup : files.lookup path = .ok place := by
    rw [lookup, hcheck]
    show files.walk (files.start path) (steps path ++ tailOf path) = _
    rw [walk_append, hwalk]
    exact walk_tailOf hhere path
  cases hhere with
  | stayAdrift =>
      rw [isDirectory, stat, hlookup]
      rfl
  | stay hdirectory =>
      rw [isDirectory, stat, hlookup]
      simp only [hdirectory]
      rfl

/-! ## Directories that were created -/

/-- A directory that was created is there. -/
theorem isDirectory_of_makeDirectory (h : files.makeDirectory path = .ok grown) :
    grown.isDirectory path = true := by
  have hgrows := grows_makeDirectory h
  rw [makeDirectory] at h
  split at h
  · cases h
  · next slot hslot =>
      split at h
      · cases h
      · next hfree =>
          injection h with hgrown
          obtain ⟨hcheck, ⟨init, hsteps, hwalk⟩, ⟨time, hdirectory⟩, hhere, hup, hlength⟩ :=
            exists_of_slot hslot
          have hmade : grown.find? (slot.name :: slot.directory) = some (.directory files.now) := by
            rw [← hgrown, create, find?_put_self]
          obtain ⟨time', hdirectory'⟩ := hgrows.directory hdirectory
          have henter : grown.step (.entry slot.directory) slot.name
              = .ok (.entry (slot.name :: slot.directory)) :=
            step_eq_ok_iff.mpr (.enter hdirectory' hhere hup hlength
              (by rw [hmade]; exact Option.some_ne_none _))
          refine isDirectory_of_walk hcheck ?_ (.stay hmade)
          rw [hgrows.start_eq, hsteps, walk_append, hgrows.walk hwalk]
          show grown.walk (.entry slot.directory) [slot.name] = _
          rw [walk, henter]
          rfl

/-- **A directory that was created, with all that were missing above it, is there.**  Induction on the
    parents. -/
theorem isDirectory_of_makeDirectories (h : (files.makeDirectories path).1 = .ok ())
    (hpath : path ≠ []) : (files.makeDirectories path).2.isDirectory path = true := by
  revert h
  fun_cases makeDirectories files path with
  | case1 hnil => exact absurd hnil hpath
  | case2 _ made hmade =>
      intro _
      exact isDirectory_of_makeDirectory hmade
  | case3 =>
      intro h
      cases h
  | case4 =>
      intro h
      cases h
  | case5 _ _ parent hparent above habove made hmade =>
      -- created once those above it had been
      intro _
      exact isDirectory_of_makeDirectory hmade
  | case6 _ _ parent hparent above habove cause hmade hthere =>
      -- there already, once those above it had been created
      intro _
      exact hthere
  | case7 =>
      intro h
      cases h
  | case8 _ cause _ _ hthere =>
      intro _
      exact hthere
  | case9 =>
      intro h
      cases h

/-! ## Directories that are not created again -/

theorem checkPath_ne_notFound (hpath : path ≠ []) : checkPath path ≠ .error .notFound := by
  rw [checkPath, if_neg hpath]
  split
  · intro h
    cases h
  · split
    · intro h
      cases h
    · intro h
      cases h

/-- Where a name can be followed, or cannot be for another reason than that it is missing, nothing can be
    created by this name. -/
theorem slot_of_step {init : List Bytes} (hcheck : checkPath path = .ok ())
    (hsteps : steps path = init ++ [name]) (hwalk : files.walk (files.start path) init = .ok place)
    (h : files.step place name ≠ .error .notFound) :
    (∃ cause, cause ≠ .notFound ∧ files.slot path = .error cause)
      ∨ ∃ location, files.slot path = .ok ⟨location, name⟩
        ∧ files.find? (name :: location) ≠ none := by
  have hlast : (steps path).getLast? = some name := by
    rw [hsteps]
    exact List.getLast?_concat
  have hinit : (steps path).dropLast = init := by
    rw [hsteps]
    exact List.dropLast_concat
  simp only [slot, hcheck, hlast, hinit, hwalk]
  cases place with
  | adrift =>
      by_cases hdots : name = Path.here ∨ name = Path.up
      · exact Or.inl ⟨.alreadyExists, by decide, if_pos hdots⟩
      · rw [not_or] at hdots
        rw [step, if_neg hdots.1, if_neg hdots.2] at h
        exact absurd rfl h
  | entry location =>
      rw [step] at h
      cases hfind : files.find? location with
      | none =>
          rw [hfind] at h
          exact absurd rfl h
      | some entry =>
          simp only [hfind] at h ⊢
          cases entry with
          | file content modified executable => exact Or.inl ⟨.notDirectory, by decide, rfl⟩
          | directory time =>
              simp only at h ⊢
              by_cases hdots : name = Path.here ∨ name = Path.up
              · exact Or.inl ⟨.alreadyExists, by decide, if_pos hdots⟩
              · have hnot := not_or.mp hdots
                rw [if_neg hnot.1, if_neg hnot.2] at h
                simp only [if_neg hdots]
                by_cases hlength : maxName < name.length
                · exact Or.inl ⟨.nameTooLong, by decide, if_pos hlength⟩
                · rw [if_neg hlength] at h
                  refine Or.inr ⟨location, if_neg hlength, ?_⟩
                  intro hnone
                  rw [hnone] at h
                  exact h rfl

/-- A directory that is not missing is not created. -/
theorem makeDirectory_of_walk (hpath : path ≠ [])
    (h : files.walk (files.start path) (steps path) ≠ .error .notFound) :
    ∃ cause, cause ≠ .notFound ∧ files.makeDirectory path = .error cause := by
  have hslot : ∀ cause, files.slot path = .error cause → files.makeDirectory path = .error cause := by
    intro cause hcause
    rw [makeDirectory, hcause]
  cases hcheck : checkPath path with
  | error cause =>
      refine ⟨cause, ?_, hslot cause (by rw [slot, hcheck])⟩
      rintro rfl
      exact checkPath_ne_notFound hpath hcheck
  | ok done =>
      rcases List.eq_nil_or_concat (steps path) with hnil | ⟨init, name, hsteps⟩
      · -- the top directory
        exact ⟨.alreadyExists, by decide, hslot _ (by simp only [slot, hcheck, hnil, List.getLast?_nil])⟩
      · rw [List.concat_eq_append] at hsteps
        rw [hsteps, walk_append] at h
        cases hwalk : files.walk (files.start path) init with
        | error cause =>
            rw [hwalk] at h
            refine ⟨cause, ?_, hslot cause ?_⟩
            · rintro rfl
              exact h rfl
            · simp only [slot, hcheck, hsteps, List.getLast?_concat, List.dropLast_concat, hwalk]
        | ok place =>
            have hstep : files.step place name ≠ .error .notFound := by
              intro hnone
              rw [hwalk] at h
              refine h ?_
              show files.walk place [name] = _
              rw [walk, hnone]
            rcases slot_of_step hcheck hsteps hwalk hstep with ⟨cause, hne, hcause⟩ | ⟨location, htaken, hsome⟩
            · exact ⟨cause, hne, hslot cause hcause⟩
            · refine ⟨.alreadyExists, by decide, ?_⟩
              rw [makeDirectory, htaken]
              exact if_pos (Option.isSome_iff_ne_none.mpr hsome)

/-- **Where no name of a path is missing, nothing is created.** -/
theorem makeDirectories_of_walk (hpath : path ≠ [])
    (h : files.walk (files.start path) (steps path) ≠ .error .notFound) :
    (files.makeDirectories path).2 = files
      ∧ (files.isDirectory path = true → (files.makeDirectories path).1 = .ok ()) := by
  obtain ⟨cause, hcause, hmade⟩ := makeDirectory_of_walk hpath h
  fun_cases makeDirectories files path with
  | case1 hnil => exact absurd hnil hpath
  | case8 _ _ _ _ _ => exact ⟨rfl, fun _ => rfl⟩
  | case9 _ _ _ _ hnot => exact ⟨rfl, fun hthere => absurd hthere hnot⟩
  | _ =>
      -- created, or missing: the first attempt says otherwise
      simp_all

/-- What is found at the end of a path is found by its steps. -/
theorem exists_of_stat {entry : Entry} (h : files.stat path = .ok entry) :
    checkPath path = .ok () ∧ ∃ place, files.walk (files.start path) (steps path) = .ok place := by
  refine ⟨(passable_of_stat h).check, ?_⟩
  rw [stat, lookup, (passable_of_stat h).check] at h
  cases hwalk : files.walk (files.start path) (steps path ++ tailOf path) with
  | ok last =>
      obtain ⟨place, hplace, -⟩ := exists_of_walk_append hwalk
      exact ⟨place, hplace⟩
  | error cause =>
      rw [tailOf] at hwalk
      simp only [hwalk] at h
      cases h

/-- **The parent of what is found is there**, and creating it changes nothing. -/
theorem makeDirectories_of_stat {entry : Entry} {parent : Path} (h : files.stat path = .ok entry)
    (hsolid : Path.solid path ≠ []) (hparent : path.parent? = some parent) :
    files.makeDirectories parent = (.ok (), files) := by
  by_cases hnil : parent = []
  · rw [makeDirectories, if_pos hnil]
  · obtain ⟨hcheck, last, hwalk⟩ := exists_of_stat h
    obtain ⟨name, more, hsteps⟩ := exists_steps_of_parent? hparent hsolid
    have hstart : files.start parent = files.start path := by
      rw [start, (Path.solid_of_parent? hparent).2]
      rfl
    rw [hsteps, ← hstart] at hwalk
    obtain ⟨place, hbetween, hmore⟩ := exists_of_walk_append hwalk
    -- the path leads on from its parent, which is a directory then
    have hhere : files.Leads place Path.here place := by
      rw [walk] at hmore
      split at hmore
      · next next hstep => exact (step_eq_ok_iff.mp hstep).here
      · cases hmore
    have hparent_check : checkPath parent = .ok () := by
      obtain ⟨hnul, -, hlength⟩ := checkPath_eq_ok_iff.mp hcheck
      obtain ⟨rest, hrest⟩ := Path.exists_of_parent? hparent
      rw [hrest, List.append_assoc] at hnul hlength
      rw [List.length_append] at hlength
      exact checkPath_eq_ok_iff.mpr
        ⟨fun hmem => hnul (List.mem_append_left _ hmem), hnil, by omega⟩
    have hfollowed : files.walk (files.start parent) (steps parent) ≠ .error .notFound := by
      rw [hbetween]
      intro heq
      cases heq
    obtain ⟨hfiles, hdone⟩ := makeDirectories_of_walk hnil hfollowed
    exact Prod.ext (hdone (isDirectory_of_walk hparent_check hbetween hhere)) hfiles

/-! ## Where the process stands -/

/-- Among entries that are there no name is missing, even if not all of them can be followed.  Induction on
    the names. -/
theorem walk_of_present {location : Location} {list : List Bytes}
    (hlist : ∀ name ∈ list, name ≠ Path.here ∧ name ≠ Path.up)
    (h : ∀ higher, higher <:+ list.reverse ++ location → files.find? higher ≠ none) :
    files.walk (.entry location) list = .ok (.entry (list.reverse ++ location))
      ∨ ∃ cause, cause ≠ .notFound ∧ files.walk (.entry location) list = .error cause := by
  induction list generalizing location with
  | nil => exact Or.inl rfl
  | cons name others ih =>
      obtain ⟨⟨hhere, hup⟩, hothers⟩ := List.forall_mem_cons.mp hlist
      rw [List.reverse_cons, List.append_assoc, List.singleton_append] at h ⊢
      obtain ⟨entry, hentry⟩ := Option.ne_none_iff_exists'.mp
        (h location ((List.suffix_cons name location).trans (List.suffix_append _ _)))
      have hnext := h (name :: location) (List.suffix_append _ _)
      cases entry with
      | file content modified executable =>
          refine Or.inr ⟨.notDirectory, by decide, ?_⟩
          rw [walk, step, hentry]
      | directory time =>
          by_cases hlength : maxName < name.length
          · refine Or.inr ⟨.nameTooLong, by decide, ?_⟩
            simp only [walk, step, hentry, if_neg hhere, if_neg hup, if_pos hlength]
          · rw [walk, step_eq_ok_iff.mpr (.enter hentry hhere hup (Nat.le_of_not_lt hlength) hnext)]
            exact ih hothers h

namespace Standing

/-- The path of the working directory leads through its names. -/
theorem steps_pathOf (hstanding : files.Standing) :
    steps (pathOf files.workingDir) = files.workingDir.reverse := by
  have hnames : ∀ name ∈ files.workingDir.reverse, name ≠ [] ∧ Byte.slash ∉ name := by
    intro name hmem
    obtain ⟨hfiller, -, hslash⟩ := hstanding.names name (List.mem_reverse.mp hmem)
    refine ⟨?_, hslash⟩
    rintro rfl
    cases hfiller
  have hsteps : steps (pathOf files.workingDir) = steps (Path.ofNames files.workingDir.reverse) :=
    steps_append_slash [] _
  rw [hsteps]
  by_cases hnil : files.workingDir.reverse = []
  · rw [hnil]
    rfl
  · rw [steps, Path.names_ofNames hnil fun name hmem => (hnames name hmem).2]
    exact List.filter_eq_self.mpr fun name hmem => decide_eq_true (hnames name hmem).1

/-- From the top, the names of the working directory lead to it, unless they cannot be followed. -/
theorem walk_workingDir (hstanding : files.Standing) (hadrift : files.adrift = false) :
    files.walk (.entry []) files.workingDir.reverse = .ok (.entry files.workingDir)
      ∨ ∃ cause, cause ≠ .notFound
        ∧ files.walk (.entry []) files.workingDir.reverse = .error cause := by
  have hlist : ∀ name ∈ files.workingDir.reverse, name ≠ Path.here ∧ name ≠ Path.up := by
    intro name hmem
    obtain ⟨hfiller, hup, -⟩ := hstanding.names name (List.mem_reverse.mp hmem)
    refine ⟨?_, hup⟩
    rintro rfl
    cases hfiller
  have hend : files.workingDir.reverse.reverse ++ [] = files.workingDir := by
    rw [List.reverse_reverse, List.append_nil]
  have hpresent := walk_of_present hlist fun higher hsuffix =>
    hstanding.stands hadrift higher (hend ▸ hsuffix)
  rw [hend] at hpresent
  exact hpresent

/-- Names that lead on from the working directory are not missing behind its own names. -/
theorem walk_workingDir_append (hstanding : files.Standing) (hadrift : files.adrift = false)
    {list : List Bytes} (h : files.walk (.entry files.workingDir) list = .ok place) :
    files.walk (.entry []) (files.workingDir.reverse ++ list) ≠ .error .notFound := by
  rw [walk_append]
  rcases hstanding.walk_workingDir hadrift with hthere | ⟨cause, hcause, hbarred⟩
  · rw [hthere]
    show files.walk (.entry files.workingDir) list ≠ _
    rw [h]
    intro heq
    cases heq
  · rw [hbarred]
    intro heq
    injection heq with heq
    exact hcause heq

end Standing

end FileSystem

end ModuleMapper
