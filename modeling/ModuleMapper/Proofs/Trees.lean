import ModuleMapper.Proofs.Locations

/-!
# Trees — where a path leads among directories that are there

  The names of a path up to its last `..` lead up and down among what is there already (`ascent`); those
  behind it only lead down (`descent`), to the *foot* of the path.  In a tree, where every entry lies in a
  directory, a path leads to its foot as soon as something lies below that
  (`isDirectory_of_directories`).
-/

namespace ModuleMapper

namespace FileSystem

variable {files : FileSystem} {path : Path} {place : Place}

/-! ## Up and down -/

/-- The names of a path up to its last `..`. -/
def ascent (path : Path) : List Bytes := ((steps path).reverse.dropWhile (· ≠ Path.up)).reverse

/-- The names of a path behind its last `..`. -/
def descent (path : Path) : List Bytes := ((steps path).reverse.takeWhile (· ≠ Path.up)).reverse

theorem ascent_append_descent (path : Path) : ascent path ++ descent path = steps path := by
  rw [ascent, descent, ← List.reverse_append, List.takeWhile_append_dropWhile, List.reverse_reverse]

theorem up_not_mem_descent (path : Path) : Path.up ∉ descent path := by
  intro hmem
  have hne := List.all_eq_true.mp List.all_takeWhile _ (List.mem_reverse.mp hmem)
  simp at hne

theorem ne_nil_of_mem_ascent {name : Bytes} (h : name ∈ ascent path) : name ≠ [] :=
  ne_nil_of_mem_steps (ascent_append_descent path ▸ List.mem_append_left _ h)

/-- The directory that a path leads down to, from where it has led up to. -/
def foot (path : Path) (base : Location) : Location := (Path.solidOf (descent path)).reverse ++ base

theorem solid_eq_append (path : Path) :
    Path.solid path = Path.solidOf (ascent path) ++ Path.solidOf (descent path) := by
  rw [← Path.solidOf_append, ascent_append_descent, solidOf_steps]

/-- Once a path has led up, the names behind it lead on. -/
theorem aimAll_solid_append (h : files.walk (files.start path) (ascent path) = .ok place)
    (more : List Bytes) :
    (files.start path).aimAll files.workingDir (Path.solid path ++ more)
      = place.aimAll files.workingDir (Path.solidOf (descent path) ++ more) := by
  rw [solid_eq_append, List.append_assoc, Place.aimAll_append, Place.aimAll_solidOf,
    aimAll_of_walk (fun name => ne_nil_of_mem_ascent) h]
  rfl

/-- Names that are followed pass nothing but what is there.  Induction on the names. -/
theorem find?_ne_none_of_walk {list first rest : List Bytes} {next : Place} {location : Location}
    (hlist : ∀ name ∈ list, name ≠ []) (h : files.walk place list = .ok next)
    (hsolid : Path.solidOf list = first ++ rest) (hrest : rest ≠ [])
    (haim : place.aimAll files.workingDir first = some (.entry location)) :
    files.find? location ≠ none := by
  induction list generalizing place first with
  | nil => exact absurd (List.append_eq_nil_iff.mp hsolid.symm).2 hrest
  | cons name others ih =>
      rw [walk] at h
      split at h
      · next between hstep =>
          have hnext := aim_of_step (hlist name List.mem_cons_self) hstep
          have hothers : ∀ name ∈ others, name ≠ [] := fun name hmem =>
            hlist name (List.mem_cons_of_mem _ hmem)
          cases hfiller : Path.isFiller name with
          | true =>
              rw [Path.solidOf_cons_of_isFiller hfiller] at hsolid
              rw [Place.aim_of_isFiller hfiller] at hnext
              injection hnext with hnext
              exact ih hothers (hnext ▸ h) hsolid haim
          | false =>
              rw [Path.solidOf_cons hfiller] at hsolid
              cases first with
              | nil =>
                  injection haim with hplace
                  subst hplace
                  cases step_eq_ok_iff.mp hstep with
                  | stay hdirectory | leave hdirectory | enter hdirectory =>
                      rw [hdirectory]
                      exact Option.some_ne_none _
              | cons head first =>
                  injection hsolid with hhead htail
                  subst hhead
                  rw [Place.aimAll, hnext] at haim
                  exact ih hothers h htail haim
      · cases h

/-- **What is found behind a path lies below its foot**, if no `..` leads to it. -/
theorem exists_of_stat_append {root : Path} {more : List Bytes} {last : Bytes} {entry : Entry}
    (hsolid : Path.solid path = Path.solid root ++ (more ++ [last])) (hmore : Path.up ∉ more ++ [last])
    (hstart : files.start path = files.start root)
    (hground : files.walk (files.start root) (ascent root) = .ok place)
    (h : files.stat path = .ok entry) :
    ∃ base, place = .entry base
      ∧ files.find? (last :: (more.reverse ++ foot root base)) = some entry := by
  have hfind := target_of_stat h
  rw [target, hstart, hsolid, aimAll_solid_append hground] at hfind
  rw [solid_eq_append root, List.append_assoc] at hsolid
  have hup : Path.up ∉ Path.solidOf (descent root) ++ (more ++ [last]) := by
    rw [List.mem_append, not_or]
    exact ⟨fun hmem => up_not_mem_descent root (List.mem_filter.mp hmem).1, hmore⟩
  have hcounts : Path.solidOf (Path.solidOf (descent root) ++ (more ++ [last]))
      = Path.solidOf (descent root) ++ (more ++ [last]) :=
    List.filter_eq_self.mpr fun name hmem =>
      (List.mem_filter.mp (hsolid ▸ List.mem_append_right _ hmem : name ∈ Path.solid path)).2
  cases place with
  | adrift =>
      -- no name leads on from a directory that has been removed
      have hne : Path.solidOf (Path.solidOf (descent root) ++ (more ++ [last])) ≠ [] := by
        rw [hcounts, ← List.append_assoc]
        exact List.append_ne_nil_of_right_ne_nil _ (List.cons_ne_nil _ _)
      rw [Place.aimAll_adrift hup hne] at hfind
      rcases hfind with heq | ⟨location, heq, -⟩
      · cases heq
      · cases heq
  | entry base =>
      rw [Place.aimAll_entry hup, hcounts] at hfind
      rcases hfind with heq | ⟨location, heq, hentry⟩
      · cases heq
      · injection heq with hplace
        injection hplace with hlocation
        rw [List.reverse_append, List.reverse_append, List.reverse_singleton, List.singleton_append,
          List.cons_append, List.cons_append, List.append_assoc] at hlocation
        refine ⟨base, rfl, ?_⟩
        rw [foot, hlocation]
        exact hentry

/-! ## Trees -/

/-- Every entry lies in a directory, and so does the process, behind names that can be written down. -/
structure IsTree (files : FileSystem) : Prop where
  above : ∀ location ∈ files.entries.map Prod.fst, location ≠ [] →
    (files.find? location.tail).any Entry.isDirectory = true
  names : ∀ name ∈ files.workingDir,
    Path.isFiller name = false ∧ name ≠ Path.up ∧ Byte.slash ∉ name
  stands : files.adrift = false → (files.find? files.workingDir).isSome = true

/-- The process stands in a directory that has a path. -/
structure Standing (files : FileSystem) : Prop where
  names : ∀ name ∈ files.workingDir,
    Path.isFiller name = false ∧ name ≠ Path.up ∧ Byte.slash ∉ name
  stands : files.adrift = false → ∀ higher, higher <:+ files.workingDir → files.find? higher ≠ none

theorem mem_of_find? {location : Location} (h : files.find? location ≠ none) :
    location ∈ files.entries.map Prod.fst := by
  refine Classical.byContradiction fun hmem => h ?_
  refine List.lookup_eq_none_iff.mpr fun entry hentry => ?_
  have hne : location ≠ entry.1 := fun heq => hmem (List.mem_map.mpr ⟨entry, hentry, heq.symm⟩)
  simpa using hne

namespace IsTree

theorem directory_of_find? (htree : files.IsTree) {name : Bytes} {location : Location}
    (h : files.find? (name :: location) ≠ none) :
    ∃ time, files.find? location = some (.directory time) := by
  have habove := htree.above _ (mem_of_find? h) (List.cons_ne_nil _ _)
  rw [List.tail_cons] at habove
  cases hentry : files.find? location with
  | none =>
      rw [hentry] at habove
      cases habove
  | some entry =>
      rw [hentry] at habove
      cases entry with
      | file content modified executable => cases habove
      | directory time => exact ⟨time, rfl⟩

/-- In a tree, all that an entry lies below are directories. -/
theorem directory_of_suffix (htree : files.IsTree) {name : Bytes} {location higher : Location}
    (h : files.find? (name :: location) ≠ none) (hsuffix : higher <:+ location) :
    ∃ time, files.find? higher = some (.directory time) := by
  induction location generalizing name with
  | nil =>
      rw [List.suffix_nil.mp hsuffix]
      exact htree.directory_of_find? h
  | cons next location ih =>
      obtain ⟨time, hnext⟩ := htree.directory_of_find? h
      rcases List.suffix_cons_iff.mp hsuffix with rfl | hbelow
      · exact ⟨time, hnext⟩
      · exact ih (by rw [hnext]; exact Option.some_ne_none _) hbelow

theorem standing (htree : files.IsTree) : files.Standing where
  names := htree.names
  stands := by
    intro hadrift higher hsuffix
    have hstands := Option.isSome_iff_ne_none.mp (htree.stands hadrift)
    cases hlocation : files.workingDir with
    | nil =>
        rw [hlocation] at hsuffix hstands
        rw [List.suffix_nil.mp hsuffix]
        exact hstands
    | cons name location =>
        rw [hlocation] at hsuffix hstands
        rcases List.suffix_cons_iff.mp hsuffix with rfl | hbelow
        · exact hstands
        · obtain ⟨time, hdirectory⟩ := htree.directory_of_suffix hstands hbelow
          rw [hdirectory]
          exact Option.some_ne_none _

end IsTree

namespace Standing

theorem solidOf_of_mem (hstanding : files.Standing) {list : List Bytes}
    (h : ∀ name ∈ list, name ∈ files.workingDir) : Path.solidOf list = list := by
  refine List.filter_eq_self.mpr fun name hmem => ?_
  rw [(hstanding.names name (h name hmem)).1]
  rfl

/-- The names of the working directory lead down to where they say. -/
theorem aimAll_of_mem (hstanding : files.Standing) {list : List Bytes}
    (h : ∀ name ∈ list, name ∈ files.workingDir) (location : Location) :
    Place.aimAll files.workingDir (.entry location) list = some (.entry (list.reverse ++ location)) := by
  have hup : Path.up ∉ list := fun hmem => (hstanding.names _ (h _ hmem)).2.1 rfl
  rw [Place.aimAll_entry hup, hstanding.solidOf_of_mem h]

/-- From the top, all of its names lead to the working directory. -/
theorem aimAll_workingDir (hstanding : files.Standing) :
    Place.aimAll files.workingDir (.entry []) files.workingDir.reverse
      = some (.entry files.workingDir) := by
  have hmem : ∀ name ∈ files.workingDir.reverse, name ∈ files.workingDir := fun name =>
    List.mem_reverse.mp
  rw [hstanding.aimAll_of_mem hmem, List.reverse_reverse, List.append_nil]

/-- The path of the working directory has its names. -/
theorem solid_pathOf (hstanding : files.Standing) :
    Path.solid (pathOf files.workingDir) = files.workingDir.reverse := by
  rw [pathOf, Path.solid_slash_cons, Path.solid_ofNames fun name hmem =>
    (hstanding.names name (List.mem_reverse.mp hmem)).2.2]
  exact hstanding.solidOf_of_mem fun name hmem => List.mem_reverse.mp hmem

end Standing

/-! ## Paths that can be followed -/

/-- A path that the system takes: neither empty nor too long, and without a NUL byte. -/
structure Passable (path : Path) : Prop where
  check : checkPath path = .ok ()
  length_le : ∀ name ∈ Path.solid path, name.length ≤ maxName

theorem length_le_of_walk {list : List Bytes} {next : Place} (h : files.walk place list = .ok next) :
    ∀ name ∈ list, name.length ≤ maxName := by
  induction list generalizing place with
  | nil => exact List.forall_mem_nil _
  | cons name others ih =>
      rw [walk] at h
      split at h
      · next between hstep =>
          refine List.forall_mem_cons.mpr ⟨?_, ih h⟩
          cases step_eq_ok_iff.mp hstep with
          | stayAdrift | leaveAdrift | stay | leave => decide
          | enter _ _ _ hlength _ => exact hlength
      · cases h

/-- Only a path that the system takes leads to anything. -/
theorem passable_of_stat {entry : Entry} (h : files.stat path = .ok entry) : Passable path := by
  have hlookup : ∃ place, files.lookup path = .ok place := by
    unfold stat at h
    split at h
    · cases h
    · next hlookup => exact ⟨_, hlookup⟩
    · next hlookup => exact ⟨_, hlookup⟩
  obtain ⟨place, hlookup⟩ := hlookup
  unfold lookup at hlookup
  split at hlookup
  · cases hlookup
  · next hcheck =>
      refine ⟨hcheck, fun name hmem => length_le_of_walk hlookup name (List.mem_append_left _ ?_)⟩
      rw [← solidOf_steps] at hmem
      exact (List.mem_filter.mp hmem).1

theorem checkPath_eq_ok_iff :
    checkPath path = .ok () ↔ Byte.nul ∉ path ∧ path ≠ [] ∧ path.length ≤ maxPath := by
  constructor
  · intro h
    unfold checkPath at h
    split at h
    · cases h
    · next hnul =>
        split at h
        · cases h
        · next hne =>
            split at h
            · cases h
            · next hlength => exact ⟨by simpa using hnul, hne, Nat.le_of_not_lt hlength⟩
  · rintro ⟨hnul, hne, hlength⟩
    rw [checkPath, if_neg (by simpa using hnul), if_neg hne, if_neg (Nat.not_lt.mpr hlength)]

namespace Passable

/-- What is joined to a path can only be followed if the path can. -/
theorem of_join {base tail : Path} (h : Passable (Path.join base tail)) (hbase : base ≠ [])
    (htail : tail.isAbsolute = false) : Passable base := by
  obtain ⟨rest, hrest⟩ := Path.exists_join_eq_append base htail
  obtain ⟨hnul, -, hlength⟩ := checkPath_eq_ok_iff.mp h.check
  rw [hrest] at hnul hlength
  refine ⟨checkPath_eq_ok_iff.mpr ⟨fun hmem => hnul (List.mem_append_left _ hmem), hbase, ?_⟩,
    fun name hmem => h.length_le name ?_⟩
  · rw [List.length_append] at hlength
    omega
  · rw [Path.solid_join htail]
    exact List.mem_append_left _ hmem

theorem length_of_mem_steps (h : Passable path) {name : Bytes} (hmem : name ∈ steps path) :
    name.length ≤ maxName := by
  by_cases hhere : name = Path.here
  · rw [hhere]
    decide
  · refine h.length_le name ?_
    rw [← solidOf_steps]
    exact List.mem_filter.mpr ⟨hmem, by simp [Path.isFiller, ne_nil_of_mem_steps hmem, hhere]⟩

end Passable

theorem walk_append (first second : List Bytes) :
    files.walk place (first ++ second) = (files.walk place first).bind fun next =>
      files.walk next second := by
  induction first generalizing place with
  | nil => rfl
  | cons name first ih =>
      rw [List.cons_append, walk, walk]
      cases files.step place name with
      | error cause => rfl
      | ok next => exact ih

/-- Names that lead down from directory to directory can be followed.  Induction on the names. -/
theorem walk_of_directories {location : Location} {list : List Bytes} (hup : Path.up ∉ list)
    (hlist : ∀ name ∈ list, name ≠ [] ∧ name.length ≤ maxName)
    (h : ∀ higher, higher <:+ (Path.solidOf list).reverse ++ location →
      ∃ time, files.find? higher = some (.directory time)) :
    files.walk (.entry location) list = .ok (.entry ((Path.solidOf list).reverse ++ location)) := by
  induction list generalizing location with
  | nil => rfl
  | cons name others ih =>
      rw [List.mem_cons, not_or] at hup
      obtain ⟨⟨hname, hlength⟩, hothers⟩ := List.forall_mem_cons.mp hlist
      by_cases hhere : name = Path.here
      · have hsolid : Path.solidOf (name :: others) = Path.solidOf others :=
          Path.solidOf_cons_of_isFiller (by rw [hhere]; rfl) others
        rw [hsolid] at h ⊢
        obtain ⟨time, hdirectory⟩ := h location (List.suffix_append _ _)
        rw [walk, hhere, step_eq_ok_iff.mpr (.stay hdirectory)]
        exact ih hup.2 hothers h
      · have hfiller : Path.isFiller name = false := by simp [Path.isFiller, hname, hhere]
        rw [Path.solidOf_cons hfiller, List.reverse_cons, List.append_assoc, List.singleton_append]
          at h ⊢
        obtain ⟨time, hdirectory⟩ := h location
          ((List.suffix_cons name location).trans (List.suffix_append _ _))
        obtain ⟨time', hnext⟩ := h (name :: location) (List.suffix_append _ _)
        have hleads : files.Leads (.entry location) name (.entry (name :: location)) :=
          .enter hdirectory hhere (Ne.symm hup.1) hlength
            (by rw [hnext]; exact Option.some_ne_none _)
        rw [walk, step_eq_ok_iff.mpr hleads]
        exact ih hup.2 hothers h

/-- **A path leads to the directory at its foot**, if the system takes it and there are only directories
    on the way down. -/
theorem isDirectory_of_directories {base : Location} (hpassable : Passable path)
    (hground : files.walk (files.start path) (ascent path) = .ok (.entry base))
    (h : ∀ higher, higher <:+ foot path base → ∃ time, files.find? higher = some (.directory time)) :
    files.isDirectory path = true := by
  have hdown : files.walk (.entry base) (descent path ++ tailOf path) = .ok (.entry (foot path base)) := by
    have hsolid : Path.solidOf (descent path ++ tailOf path) = Path.solidOf (descent path) := by
      rw [Path.solidOf_append, solidOf_tailOf, List.append_nil]
    rw [foot, ← hsolid] at h ⊢
    refine walk_of_directories ?_ (fun name hmem => ?_) h
    · rw [List.mem_append, not_or]
      refine ⟨up_not_mem_descent path, fun hmem => ?_⟩
      cases eq_here_of_mem_tailOf hmem
    · rcases List.mem_append.mp hmem with hdescent | htail
      · have hsteps : name ∈ steps path :=
          ascent_append_descent path ▸ List.mem_append_right _ hdescent
        exact ⟨ne_nil_of_mem_steps hsteps, hpassable.length_of_mem_steps hsteps⟩
      · rw [eq_here_of_mem_tailOf htail]
        exact ⟨List.cons_ne_nil _ _, by decide⟩
  have hlookup : files.lookup path = .ok (.entry (foot path base)) := by
    rw [lookup, hpassable.check]
    show files.walk (files.start path) (steps path ++ tailOf path) = _
    rw [← ascent_append_descent, List.append_assoc, walk_append, hground]
    exact hdown
  obtain ⟨time, hdirectory⟩ := h _ (List.suffix_refl _)
  rw [isDirectory, stat, hlookup]
  simp only [hdirectory]
  rfl

end FileSystem

end ModuleMapper
