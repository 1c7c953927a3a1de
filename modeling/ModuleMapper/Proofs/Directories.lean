import ModuleMapper.Proofs.Trees
import ModuleMapper.Repository

/-!
# Directories — what creating them changes

  Files only *grow* by directories: what lies somewhere stays there, files are not touched at all, and what
  is new is a directory (`FileSystem.Grows`).  A path that is created with all that is missing above it
  grows files by directories on its way (`grows_makeDirectories`), and so do the root of a repository and
  the directories above an artifact.
-/

namespace ModuleMapper

namespace FileSystem

variable {files between grown : FileSystem} {path : Path} {made more : Location → Prop}

/-- Files with more directories, all of them made where it is allowed. -/
structure Grows (files grown : FileSystem) (made : Location → Prop) : Prop where
  workingDir : grown.workingDir = files.workingDir
  adrift : grown.adrift = files.adrift
  now : grown.now = files.now
  /-- What was there still is; at most, a directory has changed. -/
  kept : ∀ location entry, files.find? location = some entry →
    ∃ left, grown.find? location = some left
      ∧ (left = entry ∨ entry.isDirectory = true ∧ left = .directory files.now)
  /-- What is new is a directory. -/
  new : ∀ location entry, files.find? location = none → grown.find? location = some entry →
    made location ∧ entry = .directory files.now

namespace Grows

theorem refl (files : FileSystem) : Grows files files made where
  workingDir := rfl
  adrift := rfl
  now := rfl
  kept := fun _ entry h => ⟨entry, h, Or.inl rfl⟩
  new := fun _ _ hnone hsome => by
    rw [hnone] at hsome
    cases hsome

theorem mono (h : Grows files grown made) (hmore : ∀ location, made location → more location) :
    Grows files grown more :=
  { h with new := fun location entry hnone hsome =>
      ⟨hmore location (h.new location entry hnone hsome).1, (h.new location entry hnone hsome).2⟩ }

theorem trans (h : Grows files between made) (h' : Grows between grown made) :
    Grows files grown made where
  workingDir := h'.workingDir.trans h.workingDir
  adrift := h'.adrift.trans h.adrift
  now := h'.now.trans h.now
  kept := by
    intro location entry hentry
    obtain ⟨left, hleft, hsame⟩ := h.kept location entry hentry
    obtain ⟨last, hlast, hsame'⟩ := h'.kept location left hleft
    refine ⟨last, hlast, ?_⟩
    rw [h.now] at hsame'
    rcases hsame with rfl | ⟨hdirectory, rfl⟩
    · exact hsame'
    · rcases hsame' with rfl | ⟨-, rfl⟩
      · exact Or.inr ⟨hdirectory, rfl⟩
      · exact Or.inr ⟨hdirectory, rfl⟩
  new := by
    intro location entry hnone hentry
    cases hbetween : between.find? location with
    | none =>
        obtain ⟨hmade, hdirectory⟩ := h'.new location entry hbetween hentry
        rw [h.now] at hdirectory
        exact ⟨hmade, hdirectory⟩
    | some left =>
        obtain ⟨hmade, rfl⟩ := h.new location left hnone hbetween
        obtain ⟨last, hlast, hsame⟩ := h'.kept location _ hbetween
        rw [hentry] at hlast
        injection hlast with hlast
        rw [h.now] at hsame
        refine ⟨hmade, ?_⟩
        rcases hsame with rfl | ⟨-, rfl⟩
        · exact hlast
        · exact hlast

/-- Paths start from the same places in files that have grown, and aim at the same. -/
theorem start_eq (h : Grows files grown made) (path : Path) : grown.start path = files.start path := by
  rw [start, start, h.workingDir, h.adrift]

theorem target_eq (h : Grows files grown made) (path : Path) : grown.target path = files.target path := by
  rw [target, target, h.start_eq, h.workingDir]

theorem ne_none (h : Grows files grown made) {location : Location}
    (hfind : files.find? location ≠ none) : grown.find? location ≠ none := by
  obtain ⟨entry, hentry⟩ := Option.ne_none_iff_exists'.mp hfind
  obtain ⟨left, hleft, -⟩ := h.kept location entry hentry
  rw [hleft]
  exact Option.some_ne_none left

/-- A directory stays one. -/
theorem directory (h : Grows files grown made) {location : Location} {time : Timestamp}
    (hfind : files.find? location = some (.directory time)) :
    ∃ time, grown.find? location = some (.directory time) := by
  obtain ⟨left, hleft, rfl | ⟨-, rfl⟩⟩ := h.kept location _ hfind
  · exact ⟨time, hleft⟩
  · exact ⟨files.now, hleft⟩

theorem leads (h : Grows files grown made) {place next : Place} {name : Bytes}
    (hleads : files.Leads place name next) : grown.Leads place name next := by
  cases hleads with
  | stayAdrift => exact .stayAdrift
  | leaveAdrift =>
      rw [← h.workingDir]
      exact .leaveAdrift
  | stay hdirectory =>
      obtain ⟨time, hleft⟩ := h.directory hdirectory
      exact .stay hleft
  | leave hdirectory =>
      obtain ⟨time, hleft⟩ := h.directory hdirectory
      exact .leave hleft
  | enter hdirectory hhere hup hlength hfind =>
      obtain ⟨time, hleft⟩ := h.directory hdirectory
      exact .enter hleft hhere hup hlength (h.ne_none hfind)

/-- Names that can be followed still can be, and lead to the same place. -/
theorem walk (h : Grows files grown made) {place next : Place} {list : List Bytes}
    (hwalk : files.walk place list = .ok next) : grown.walk place list = .ok next := by
  induction list generalizing place with
  | nil => exact hwalk
  | cons name others ih =>
      rw [FileSystem.walk] at hwalk ⊢
      split at hwalk
      · next between hstep =>
          rw [step_eq_ok_iff.mpr (h.leads (step_eq_ok_iff.mp hstep))]
          exact ih hwalk
      · cases hwalk

theorem standing (h : Grows files grown made) (hstanding : files.Standing) : grown.Standing where
  names := by
    rw [h.workingDir]
    exact hstanding.names
  stands := by
    rw [h.workingDir, h.adrift]
    exact fun hadrift higher hsuffix => h.ne_none (hstanding.stands hadrift higher hsuffix)

end Grows

/-! ## One directory -/

/-- Noting that a directory has changed changes nothing else. -/
theorem find?_touch {directory : Location} {time : Timestamp}
    (hdirectory : files.find? directory = some (.directory time)) (location : Location) :
    (files.touch directory).find? location
      = if location = directory then some (.directory files.now) else files.find? location := by
  have htouch : files.touch directory = files.put directory (.directory files.now) := by
    rw [touch, hdirectory]
    rfl
  rw [htouch]
  split
  · next heq =>
      subst heq
      exact find?_put_self files location _
  · next hne => exact find?_put_of_ne hne

theorem workingDir_touch (files : FileSystem) (location : Location) :
    (files.touch location).workingDir = files.workingDir
      ∧ (files.touch location).adrift = files.adrift ∧ (files.touch location).now = files.now := by
  unfold touch
  split
  · exact ⟨rfl, rfl, rfl⟩
  · exact ⟨rfl, rfl, rfl⟩

/-- Files grow by a directory that is put where nothing was. -/
theorem grows_create {directory : Location} {name : Bytes} {time : Timestamp}
    (hdirectory : files.find? directory = some (.directory time))
    (hnone : files.find? (name :: directory) = none) :
    Grows files (files.create directory name (.directory files.now))
      fun location => location = name :: directory := by
  obtain ⟨hworkingDir, hadrift, hnow⟩ := workingDir_touch files directory
  refine ⟨hworkingDir, hadrift, hnow, ?_, ?_⟩
  · intro location entry hentry
    have hne : location ≠ name :: directory := by
      intro heq
      rw [heq, hnone] at hentry
      cases hentry
    rw [create, find?_put_of_ne hne, find?_touch hdirectory]
    split
    · next heq =>
        subst heq
        rw [hdirectory] at hentry
        injection hentry with hentry
        subst hentry
        exact ⟨_, rfl, Or.inr ⟨rfl, rfl⟩⟩
    · exact ⟨entry, hentry, Or.inl rfl⟩
  · intro location entry hfree hentry
    by_cases heq : location = name :: directory
    · rw [heq, create, find?_put_self] at hentry
      injection hentry with hentry
      exact ⟨heq, hentry.symm⟩
    · rw [create, find?_put_of_ne heq, find?_touch hdirectory] at hentry
      split at hentry
      · next hsame =>
          rw [hsame, hdirectory] at hfree
          cases hfree
      · rw [hfree] at hentry
        cases hentry

/-- A directory is created at the target of its path. -/
theorem grows_makeDirectory (h : files.makeDirectory path = .ok grown) :
    Grows files grown fun location => files.target path = some (.entry location) := by
  unfold makeDirectory at h
  split at h
  · cases h
  · next slot hslot =>
      obtain ⟨htarget, time, hdirectory⟩ := target_of_slot hslot
      split at h
      · cases h
      · next hfree =>
          injection h with h
          rw [← h]
          refine (grows_create hdirectory (by simpa using hfree)).mono ?_
          rintro location rfl
          exact htarget

/-! ## A directory and all that are missing above it -/

/-- A location that a path passes, or leads to. -/
def OnTheWay (files : FileSystem) (path : Path) (location : Location) : Prop :=
  ∃ list, list <+: Path.solid path
    ∧ (files.start path).aimAll files.workingDir list = some (.entry location)

theorem OnTheWay.of_target {location : Location} (h : files.target path = some (.entry location)) :
    files.OnTheWay path location := ⟨_, List.prefix_refl _, h⟩

/-- On the way to the parent is on the way. -/
theorem OnTheWay.of_parent? {parent : Path} (hparent : path.parent? = some parent)
    {location : Location} (h : files.OnTheWay parent location) : files.OnTheWay path location := by
  obtain ⟨hsolid, habsolute⟩ := Path.solid_of_parent? hparent
  obtain ⟨list, hfront, haim⟩ := h
  rw [hsolid] at hfront
  refine ⟨list, hfront.trans (List.dropLast_prefix _), ?_⟩
  rw [start, habsolute] at haim
  exact haim

/-- A name that some names lead to, below the place that the first of them lead to, is one of the
    others. -/
theorem mem_of_prefix_append {first second list : List Bytes} {base location : Location} {name : Bytes}
    (hlist : list <+: first ++ second) (hlocation : name :: location = list.reverse ++ base)
    (hbelow : first.reverse ++ base <:+ location) : name ∈ second := by
  have hlength := congrArg List.length hlocation
  have hlonger := hbelow.length_le
  simp only [List.length_cons, List.length_append, List.length_reverse] at hlength hlonger
  rcases List.prefix_or_prefix_of_prefix hlist (List.prefix_append first second) with hfirst | hfirst
  · have := hfirst.length_le
    omega
  · obtain ⟨rest, rfl⟩ := hfirst
    rw [List.prefix_append_right_inj] at hlist
    rcases List.eq_nil_or_concat rest with rfl | ⟨init, last, rfl⟩
    · rw [List.append_nil] at hlength
      omega
    · rw [List.reverse_append, List.concat_eq_append, List.reverse_append, List.reverse_singleton,
        List.singleton_append, List.cons_append, List.cons_append] at hlocation
      injection hlocation with hname
      refine hlist.subset ?_
      rw [hname, List.concat_eq_append]
      exact List.mem_append_right _ (List.mem_singleton_self _)

/-- **What is missing on a way, below the foot of its first part, is named in the rest of it.** -/
theorem OnTheWay.mem_of_below_foot {root : Path} {more : List Bytes} {base location : Location}
    {name : Bytes} (h : files.OnTheWay path (name :: location))
    (hsolid : Path.solid path = Path.solid root ++ more) (hmore : Path.up ∉ more)
    (hstart : files.start path = files.start root)
    (hground : files.walk (files.start root) (ascent root) = .ok (.entry base))
    (hnone : files.find? (name :: location) = none) (hbelow : foot root base <:+ location) :
    name ∈ more := by
  obtain ⟨list, hlist, haim⟩ := h
  have hcounts := Path.solidOf_eq_self hlist
  rw [hsolid, solid_eq_append, List.append_assoc] at hlist
  rw [hstart] at haim
  have hascent : ∀ name ∈ ascent root, name ≠ [] := fun name => ne_nil_of_mem_ascent
  have hdown : ∀ rest, list = Path.solidOf (ascent root) ++ rest → name ∈ more := by
    rintro rest rfl
    rw [List.prefix_append_right_inj] at hlist
    have hup : Path.up ∉ rest := by
      intro hmem
      rcases List.mem_append.mp (hlist.subset hmem) with hdescent | hmem
      · exact up_not_mem_descent root (List.mem_filter.mp hdescent).1
      · exact hmore hmem
    have hrest : Path.solidOf rest = rest :=
      List.filter_eq_self.mpr fun name hmem =>
        List.filter_eq_self.mp hcounts name (List.mem_append_right _ hmem)
    rw [Place.aimAll_append, Place.aimAll_solidOf, aimAll_of_walk hascent hground, Option.bind_some,
      Place.aimAll_entry hup, hrest] at haim
    injection haim with hplace
    injection hplace with hlocation
    exact mem_of_prefix_append hlist hlocation.symm hbelow
  rcases List.prefix_or_prefix_of_prefix hlist (List.prefix_append _ _)
    with ⟨rest, hrest⟩ | ⟨rest, hrest⟩
  · by_cases hend : rest = []
    · rw [hend, List.append_nil] at hrest
      exact hdown [] (by rw [hrest, List.append_nil])
    · -- in front of its last `..` the way passes nothing but what is there
      exact absurd hnone (find?_ne_none_of_walk hascent hground hrest.symm hend haim)
  · exact hdown rest hrest.symm

/-- **Creating a directory, and all that are missing above it, makes files grow on its way.**  Induction
    on the parents. -/
theorem grows_makeDirectories (files : FileSystem) (path : Path) :
    Grows files (files.makeDirectories path).2 (files.OnTheWay path) := by
  fun_induction makeDirectories files path with
  | case1 => exact .refl files
  | case2 path _ made hmade =>
      -- nothing above the directory was missing
      exact (grows_makeDirectory hmade).mono fun _ => .of_target
  | case3 => exact .refl files
  | case4 path _ _ parent hparent cause above habove ih =>
      rw [habove] at ih
      exact ih.mono fun _ => .of_parent? hparent
  | case5 path _ _ parent hparent above habove made hmade ih =>
      -- the directory is made once those above it have been
      rw [habove] at ih
      refine (ih.mono fun _ => .of_parent? hparent).trans ((grows_makeDirectory hmade).mono ?_)
      intro location htarget
      rw [ih.target_eq] at htarget
      exact .of_target htarget
  | case6 path _ _ parent hparent above habove cause _ _ ih =>
      rw [habove] at ih
      exact ih.mono fun _ => .of_parent? hparent
  | case7 path _ _ parent hparent above habove cause _ _ ih =>
      rw [habove] at ih
      exact ih.mono fun _ => .of_parent? hparent
  | case8 => exact .refl files
  | case9 => exact .refl files

/-- The working directory has a path unless it has been removed. -/
theorem eq_pathOf_of_currentDir {directory : Path} (h : files.currentDir = .ok directory) :
    files.adrift = false ∧ directory = pathOf files.workingDir := by
  rw [currentDir] at h
  cases hadrift : files.adrift with
  | true =>
      rw [hadrift] at h
      cases h
  | false =>
      rw [hadrift] at h
      exact ⟨rfl, (Except.ok.inj h).symm⟩

end FileSystem

/-! ## Repositories -/

namespace Repository

open FileSystem (Grows OnTheWay)

variable {files : FileSystem}

/-- Whether they can be made or not, providing a directory makes what it can. -/
theorem files_provide (files : FileSystem) (directory : Path) :
    (provide files directory).2 = (files.makeDirectories directory).2 := by
  unfold provide
  split
  · next hmade => rw [hmade]
  · next hmade => rw [hmade]

theorem files_provideRoot {repository : Repository} {root : Path}
    (h : repository.absoluteRoot files = .ok root) :
    (repository.provideRoot files).2 = (files.makeDirectories root).2 := by
  rw [← files_provide, provideRoot, h]
  simp only
  split
  · next hprovide => rw [hprovide]
  · next hprovide => rw [hprovide]

theorem files_prepare {repository : Repository} {artifact directory : Path}
    (h : (repository.fileOf artifact).parent? = some directory) :
    (repository.prepare artifact files).2 = (files.makeDirectories directory).2 := by
  rw [← files_provide]
  simp only [prepare, h]
  split
  · next hprovide => rw [hprovide]
  · next hprovide => rw [hprovide]

/-- Providing the root makes directories on the way to it. -/
theorem grows_provideRoot (repository : Repository) (files : FileSystem) :
    Grows files (repository.provideRoot files).2
      fun location => ∃ root, repository.absoluteRoot files = .ok root
        ∧ files.OnTheWay root location := by
  cases hroot : repository.absoluteRoot files with
  | error failure =>
      rw [provideRoot, hroot]
      exact .refl files
  | ok root =>
      rw [files_provideRoot hroot]
      exact (FileSystem.grows_makeDirectories files root).mono fun location hway => ⟨root, rfl, hway⟩

/-- Preparing an artifact makes directories on the way to the one that it lies in. -/
theorem grows_prepare (repository : Repository) (artifact : Path) (files : FileSystem) :
    Grows files (repository.prepare artifact files).2
      fun location => ∃ directory, (repository.fileOf artifact).parent? = some directory
        ∧ files.OnTheWay directory location := by
  cases hparent : (repository.fileOf artifact).parent? with
  | none =>
      simp only [prepare, hparent]
      exact .refl files
  | some directory =>
      rw [files_prepare hparent]
      exact (FileSystem.grows_makeDirectories files directory).mono fun location hway =>
        ⟨directory, rfl, hway⟩

/-- The absolute root is the root itself, or the working directory joined with it. -/
theorem absoluteRoot_cases {repository : Repository} {root : Path}
    (h : repository.absoluteRoot files = .ok root) :
    repository.root.isAbsolute = true ∧ root = repository.root
      ∨ repository.root.isAbsolute = false ∧ ∃ directory, files.currentDir = .ok directory
        ∧ root = directory.join repository.root := by
  rw [absoluteRoot] at h
  split at h
  · next habsolute => exact Or.inl ⟨habsolute, (Except.ok.inj h).symm⟩
  · next hrelative =>
      split at h
      · next directory hdirectory =>
          exact Or.inr ⟨Bool.eq_false_iff.mpr hrelative, directory, hdirectory, (Except.ok.inj h).symm⟩
      · cases h

/-- On the way to the absolute root is what lies above the working directory, and what is on the way to
    the root from there. -/
theorem onTheWay_of_absoluteRoot {repository : Repository} {root : Path} {location : Location}
    (hstanding : files.Standing) (habsolute : repository.absoluteRoot files = .ok root)
    (h : files.OnTheWay root location) :
    files.adrift = false ∧ location <:+ files.workingDir ∨ files.OnTheWay repository.root location := by
  rcases absoluteRoot_cases habsolute with ⟨-, rfl⟩ | ⟨hroot, directory, hdirectory, rfl⟩
  · exact Or.inr h
  · obtain ⟨hadrift, rfl⟩ := FileSystem.eq_pathOf_of_currentDir hdirectory
    have hne : FileSystem.pathOf files.workingDir ≠ [] := List.cons_ne_nil _ _
    obtain ⟨list, hlist, haim⟩ := h
    rw [Path.solid_join hroot, hstanding.solid_pathOf] at hlist
    rw [FileSystem.start, Path.isAbsolute_join hne hroot] at haim
    rcases List.prefix_or_prefix_of_prefix hlist (List.prefix_append _ _)
      with habove | ⟨rest, rfl⟩
    · -- the way has not led further than the working directory
      have hmem : ∀ name ∈ list, name ∈ files.workingDir := fun name hname =>
        List.mem_reverse.mp (habove.subset hname)
      have haim' := haim.symm.trans (hstanding.aimAll_of_mem hmem [])
      injection haim' with hplace
      injection hplace with hlocation
      rw [List.append_nil] at hlocation
      rw [hlocation, ← List.reverse_reverse files.workingDir]
      exact Or.inl ⟨hadrift, List.reverse_suffix.mpr habove⟩
    · rw [List.prefix_append_right_inj] at hlist
      refine Or.inr ⟨rest, hlist, ?_⟩
      have haim' : (Place.aimAll files.workingDir (.entry []) files.workingDir.reverse).bind
          (fun next => next.aimAll files.workingDir rest) = some (.entry location) :=
        (Place.aimAll_append _ _).symm.trans haim
      rw [hstanding.aimAll_workingDir] at haim'
      rw [FileSystem.start, if_neg (Bool.eq_false_iff.mp hroot), hadrift]
      exact haim'

end Repository

end ModuleMapper
