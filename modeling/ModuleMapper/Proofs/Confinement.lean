import ModuleMapper.Proofs.Directories
import ModuleMapper.Proofs.Keys

/-!
# Confinement — artifacts inside their repository

  Behind the name that starts with the digest, the path of an artifact has the *trail* of its client: the
  names that the slashes in the client's words make.  A flat client has no trail.  As long as there is no
  `..` in it, an artifact lies below the root of every repository, and whatever is made for it is on the
  way to the root or lies below it (`path_confined`).

  A client that says `..` between slashes leads out, and directories are made outside
  (`not_confines_leavingClient`).
-/

namespace ModuleMapper

/-! ## Trails -/

namespace Path

theorem isFiller_of_long {name : Bytes} (h : 2 ≤ name.length) : isFiller name = false := by
  have hempty : name ≠ [] := by
    rintro rfl
    exact absurd h (by decide)
  have hhere : name ≠ here := by
    rintro rfl
    exact absurd h (by decide)
  simp [isFiller, hempty, hhere]

/-- A front without a slash is part of the first name. -/
theorem names_append_of_not_mem {front : Bytes} (h : Byte.slash ∉ front) (rest : Path) :
    ∃ name, names (front ++ rest) = (front ++ name) :: (names rest).tail := by
  induction front with
  | nil =>
      obtain ⟨name, others, hnames⟩ := List.exists_cons_of_ne_nil (names_ne_nil rest)
      refine ⟨name, ?_⟩
      rw [List.nil_append, hnames]
      rfl
  | cons b front ih =>
      rw [List.mem_cons, not_or] at h
      obtain ⟨name, hnames⟩ := ih h.2
      refine ⟨name, ?_⟩
      rw [List.cons_append, names, if_neg (Ne.symm h.1), hnames]
      rfl

end Path

namespace Client

/-- The names that slashes in the words of a client make. -/
def trail (client : Client) : List Bytes := Path.solidOf (Path.names client.ending).tail

/-- A flat client has no trail. -/
theorem trail_of_isFlat {client : Client} (h : client.IsFlat) : client.trail = [] := by
  have hslash : Byte.slash ∉ client.ending := by
    have hdash : Byte.slash ≠ Byte.dash := by decide
    unfold ending
    split
    · simp only [List.mem_append, List.mem_cons, not_or]
      exact ⟨⟨hdash, h.1⟩, by decide⟩
    · simp only [List.mem_append, List.mem_cons, not_or]
      exact ⟨⟨hdash, h.2⟩, hdash, h.1⟩
  rw [trail, Path.names_of_not_mem hslash]
  rfl

end Client

namespace Artifact

/-- The name of an artifact starts with the digest, and the trail of the client comes behind it. -/
theorem solid_fileName (name : Word) (crossPrefix : String) (client : Client) :
    ∃ last, Path.solid (fileName name crossPrefix client)
      = (digest name crossPrefix ++ last) :: client.trail := by
  have hslash : Byte.slash ∉ digest name crossPrefix := fun hmem =>
    (isHexDigit_of_mem_digest hmem).ne_slash rfl
  obtain ⟨last, hnames⟩ := Path.names_append_of_not_mem hslash client.ending
  have hlong : 2 ≤ (digest name crossPrefix ++ last).length := by
    rw [List.length_append, length_digest]
    omega
  refine ⟨last, ?_⟩
  rw [Path.solid, fileName_eq, hnames, Path.solidOf_cons (Path.isFiller_of_long hlong), Client.trail]

theorem solid_path_eq (name : Word) (crossPrefix : String) (client : Client) :
    ∃ last, Path.solid (path name crossPrefix client)
      = shards name crossPrefix client ++ (digest name crossPrefix ++ last) :: client.trail := by
  obtain ⟨last, hfile⟩ := solid_fileName name crossPrefix client
  exact ⟨last, hfile ▸ (solid_path name crossPrefix client).1⟩

theorem length_shards (name : Word) (crossPrefix : String) (client : Client) :
    (shards name crossPrefix client).length = if client.build = [] then 2 else 0 := by
  unfold shards
  split
  · rfl
  · rfl

/-- **The names of an artifact's path**: two shards if there is no build, the name of the file, and the
    trail of the client. -/
theorem length_solid_path (name : Word) (crossPrefix : String) (client : Client) :
    (Path.solid (path name crossPrefix client)).length
      = (if client.build = [] then 3 else 1) + client.trail.length := by
  obtain ⟨last, hsolid⟩ := solid_path_eq name crossPrefix client
  rw [hsolid, List.length_append, length_shards, List.length_cons]
  split
  · omega
  · omega

/-- An artifact's path leads up just where the trail of the client does. -/
theorem up_mem_solid_path_iff (name : Word) (crossPrefix : String) (client : Client) :
    Path.up ∈ Path.solid (path name crossPrefix client) ↔ Path.up ∈ client.trail := by
  obtain ⟨last, hsolid⟩ := solid_path_eq name crossPrefix client
  have hlast : Path.up ≠ digest name crossPrefix ++ last := by
    intro heq
    have hlength := congrArg List.length heq
    rw [List.length_append, length_digest] at hlength
    simp only [List.length_cons, List.length_nil] at hlength
    omega
  rw [hsolid, List.mem_append, List.mem_cons]
  constructor
  · rintro (hshard | hfile | htrail)
    · exact absurd hshard up_not_mem_shards
    · exact absurd hfile hlast
    · exact htrail
  · exact fun htrail => Or.inr (Or.inr htrail)

end Artifact

/-! ## Below the root -/

namespace FileSystem

variable {files : FileSystem} {root : Path} {location : Location}

/-- A location below the one that a path leads to. -/
def Below (files : FileSystem) (path : Path) (location : Location) : Prop :=
  ∃ base, files.target path = some (.entry base) ∧ base <:+ location ∧ location ≠ base

/-- What is joined to a path is looked for from where the path is. -/
theorem start_join (files : FileSystem) (base : Path) {tail : Path} (h : tail.isAbsolute = false) :
    files.start (Path.join base tail) = files.start base := by
  cases base with
  | nil =>
      rw [start, start, Path.join, if_neg (Bool.eq_false_iff.mp h), if_pos (Or.inl rfl),
        List.nil_append, h]
      rfl
  | cons b rest => rw [start, start, Path.isAbsolute_join (List.cons_ne_nil b rest) h]

/-- **Names behind a path lead below it**, if there is no `..` among them. -/
theorem below_of_aimAll {rest : List Bytes} {place : Place} (hup : Path.up ∉ rest)
    (hne : Path.solidOf rest ≠ [])
    (h : (files.start root).aimAll files.workingDir (Path.solid root ++ rest) = some place) :
    ∃ location, place = .entry location ∧ files.Below root location := by
  rw [Place.aimAll_append] at h
  cases htarget : files.target root with
  | none =>
      rw [target] at htarget
      rw [htarget] at h
      cases h
  | some between =>
      have hbetween := htarget
      rw [target] at hbetween
      rw [hbetween, Option.bind_some] at h
      cases between with
      | adrift =>
          -- Where there is no directory, names lead nowhere.
          rw [Place.aimAll_adrift hup hne] at h
          cases h
      | entry base =>
          rw [Place.aimAll_entry hup] at h
          injection h with hplace
          refine ⟨_, hplace.symm, base, htarget, List.suffix_append _ _, fun heq => hne ?_⟩
          have hlength := congrArg List.length heq
          rw [List.length_append, List.length_reverse] at hlength
          exact List.eq_nil_of_length_eq_zero (by omega)

/-- On the way to a path without `..` is what lies above it. -/
theorem OnTheWay.suffix (h : files.OnTheWay root location) (hup : Path.up ∉ Path.solid root) :
    ∃ base, files.target root = some (.entry base) ∧ location <:+ base := by
  obtain ⟨list, hlist, haim⟩ := h
  have hlist_up : Path.up ∉ list := fun hmem => hup (hlist.subset hmem)
  cases hstart : files.start root with
  | adrift =>
      rw [hstart] at haim
      cases list with
      | nil => cases haim
      | cons name others =>
          have hsolid : Path.solidOf (name :: others) ≠ [] := by
            rw [Path.solidOf_eq_self hlist]
            exact List.cons_ne_nil name others
          rw [Place.aimAll_adrift hlist_up hsolid] at haim
          cases haim
  | entry first =>
      rw [hstart, Place.aimAll_entry hlist_up, Path.solidOf_eq_self hlist] at haim
      injection haim with hplace
      injection hplace with hlocation
      obtain ⟨more, hmore⟩ := hlist
      refine ⟨(Path.solid root).reverse ++ first, ?_, ?_⟩
      · rw [target, hstart, Place.aimAll_entry hup, Path.solidOf_eq_self (List.prefix_refl _)]
      · rw [← hlocation, ← hmore, List.reverse_append, List.append_assoc]
        exact List.suffix_append _ _

end FileSystem

/-! ## Confinement -/

namespace Repository

/-- A repository keeps an artifact to itself: it looks for it below its root, and what it makes for it is
    on the way to the root or lies below it. -/
structure Confines (repository : Repository) (artifact : Path) (files : FileSystem) : Prop where
  /-- The file of the artifact has its place below the root. -/
  placed : ∀ place, files.target (repository.fileOf artifact) = some place →
    ∃ location, place = .entry location ∧ files.Below repository.root location
  /-- What is found in that place lies below the root. -/
  found : ∀ entry, files.stat (repository.fileOf artifact) = .ok entry →
    ∃ location, files.Below repository.root location ∧ files.find? location = some entry
  /-- What is new once the artifact is prepared lies below the root, or the root leads to it or past it. -/
  made : ∀ location, files.find? location = none →
    (repository.prepare artifact files).2.find? location ≠ none →
      files.OnTheWay repository.root location ∨ files.Below repository.root location
  /-- What a root without `..` leads past are the directories above it. -/
  above : Path.up ∉ Path.solid repository.root → ∀ location, files.find? location = none →
    (repository.prepare artifact files).2.find? location ≠ none →
      ∃ base, files.target repository.root = some (.entry base)
        ∧ (location <:+ base ∨ base <:+ location)

variable {repository : Repository} {files : FileSystem} {artifact : Path}

/-- The place of an artifact's file is below the root, unless the artifact leads up. -/
theorem below_of_target (hrelative : artifact.isAbsolute = false)
    (hup : Path.up ∉ Path.solid artifact) (hne : Path.solid artifact ≠ []) {place : Place}
    (h : files.target (repository.fileOf artifact) = some place) :
    ∃ location, place = .entry location ∧ files.Below repository.root location := by
  rw [FileSystem.target, fileOf, FileSystem.start_join files _ hrelative,
    Path.solid_join hrelative] at h
  refine FileSystem.below_of_aimAll hup ?_ h
  rw [Path.solidOf_eq_self (List.prefix_refl _)]
  exact hne

/-- What is made for an artifact that does not lead up is on the way to the root or below it. -/
theorem onTheWay_or_below (hrelative : artifact.isAbsolute = false)
    (hup : Path.up ∉ Path.solid artifact) (hne : Path.solid artifact ≠ []) {directory : Path}
    (hparent : (repository.fileOf artifact).parent? = some directory) {location : Location}
    (h : files.OnTheWay directory location) :
    files.OnTheWay repository.root location ∨ files.Below repository.root location := by
  obtain ⟨hsolid, habsolute⟩ := Path.solid_of_parent? hparent
  have hstart : files.start directory = files.start repository.root := by
    rw [FileSystem.start, habsolute, ← FileSystem.start_join files _ hrelative]
    rfl
  obtain ⟨list, hlist, haim⟩ := h
  rw [hsolid, fileOf, Path.solid_join hrelative, List.dropLast_append_of_ne_nil hne] at hlist
  rw [hstart] at haim
  -- What is on the way ends within the root, or it goes on into the artifact.
  rcases List.prefix_or_prefix_of_prefix hlist (List.prefix_append _ _) with hroot | ⟨rest, rfl⟩
  · exact Or.inl ⟨list, hroot, haim⟩
  · rw [List.prefix_append_right_inj] at hlist
    have hinner := hlist.trans (List.dropLast_prefix _)
    by_cases hrest : rest = []
    · rw [hrest, List.append_nil] at haim
      exact Or.inl ⟨_, List.prefix_refl _, haim⟩
    · have hsolid : Path.solidOf rest ≠ [] := (Path.solidOf_eq_self hinner).symm ▸ hrest
      obtain ⟨_, hplace, hbelow⟩ :=
        FileSystem.below_of_aimAll (fun hmem => hup (hinner.subset hmem)) hsolid haim
      injection hplace with hlocation
      exact Or.inr (hlocation ▸ hbelow)

/-- **An artifact that does not lead up is confined**, in every repository and whatever the files are. -/
theorem confines_of_up_not_mem (repository : Repository) (files : FileSystem)
    (hrelative : artifact.isAbsolute = false) (hup : Path.up ∉ Path.solid artifact)
    (hne : Path.solid artifact ≠ []) : repository.Confines artifact files := by
  have hmade : ∀ location, files.find? location = none →
      (repository.prepare artifact files).2.find? location ≠ none →
        files.OnTheWay repository.root location ∨ files.Below repository.root location := by
    intro location hnone hsome
    obtain ⟨entry, hentry⟩ := Option.ne_none_iff_exists'.mp hsome
    obtain ⟨⟨directory, hparent, hway⟩, -⟩ :=
      (grows_prepare repository artifact files).new location entry hnone hentry
    exact onTheWay_or_below hrelative hup hne hparent hway
  refine ⟨fun place => below_of_target hrelative hup hne, ?_, hmade, ?_⟩
  · intro entry hstat
    rcases FileSystem.target_of_stat hstat with htarget | ⟨location, htarget, hfind⟩
    · obtain ⟨_, hplace, -⟩ := below_of_target hrelative hup hne htarget
      cases hplace
    · obtain ⟨_, hplace, hbelow⟩ := below_of_target hrelative hup hne htarget
      injection hplace with hlocation
      exact ⟨location, hlocation ▸ hbelow, hfind⟩
  · intro hroot location hnone hsome
    rcases hmade location hnone hsome with hway | ⟨base, htarget, hbelow, -⟩
    · obtain ⟨base, htarget, habove⟩ := hway.suffix hroot
      exact ⟨base, htarget, Or.inl habove⟩
    · exact ⟨base, htarget, Or.inr hbelow⟩

end Repository

namespace Artifact

/-- **The artifacts of a client stay inside**, as far as its words do.  Their paths are relative.  They
    have one name with a build and three without, just if the client has no trail, as a flat client has
    none; they lead up just if its trail does.  If it does not, then every repository keeps the artifact
    to itself. -/
theorem path_confined (name : Word) (crossPrefix : String) (client : Client) :
    Path.isAbsolute (path name crossPrefix client) = false
      ∧ ((Path.solid (path name crossPrefix client)).length = (if client.build = [] then 3 else 1)
        ↔ client.trail = [])
      ∧ (Path.up ∈ Path.solid (path name crossPrefix client) ↔ Path.up ∈ client.trail)
      ∧ (client.IsFlat → client.trail = [])
      ∧ (Path.up ∉ client.trail → ∀ (repository : Repository) (files : FileSystem),
        repository.Confines (path name crossPrefix client) files) := by
  have hrelative := (solid_path name crossPrefix client).2
  have hup := up_mem_solid_path_iff name crossPrefix client
  have hlength := length_solid_path name crossPrefix client
  refine ⟨hrelative, ?_, hup, Client.trail_of_isFlat, fun htrail repository files => ?_⟩
  · rw [hlength]
    exact Nat.add_eq_left.trans List.length_eq_zero_iff
  · refine Repository.confines_of_up_not_mem repository files hrelative (mt hup.mp htrail) ?_
    intro hnil
    rw [hnil, List.length_nil] at hlength
    split at hlength
    · omega
    · omega

/-- Files with nothing but a working directory. -/
def homeFiles : FileSystem where
  entries := [([], .directory ⟨0, 0⟩), ([Bytes.ofString "home"], .directory ⟨0, 0⟩)]
  workingDir := [Bytes.ofString "home"]
  now := ⟨1, 0⟩

/-- A client with a slash in its build, which leads down. -/
def slashedClient : Client := { compiler := Bytes.ofString "c", build := Bytes.ofString "b/d" }

/-- A flat client has no trail.  One that leads down makes a directory below the root, even where the root
    leads up. -/
theorem path_confined_slashedClient :
    (earlyDash.IsFlat ∧ earlyDash.trail = [])
      ∧ slashedClient.trail = [Bytes.ofString "d-c"] ∧ Path.up ∉ slashedClient.trail
      ∧ Repository.Confines ⟨Bytes.ofString "../cache"⟩
        (path (Bytes.ofString "foo") "" slashedClient) homeFiles := by
  have hflat : earlyDash.IsFlat := by decide
  have hup : Path.up ∉ slashedClient.trail := by decide
  exact ⟨⟨hflat, (path_confined (Bytes.ofString "foo") "" earlyDash).2.2.2.1 hflat⟩, by decide, hup,
    (path_confined (Bytes.ofString "foo") "" slashedClient).2.2.2.2 hup _ _⟩

/-- A client whose build leads up twice, from a directory that is made for it and out of the root. -/
def leavingClient : Client :=
  { compiler := Bytes.ofString "c", build := Bytes.ofString "/../../outside/x" }

/-- **A client that leads up leaves the repository**: a directory is made beside the root. -/
theorem not_confines_leavingClient :
    leavingClient.build ≠ []
      ∧ (Path.solid (path (Bytes.ofString "foo") "" leavingClient)).length ≠ 1
      ∧ Path.up ∈ Path.solid (path (Bytes.ofString "foo") "" leavingClient)
      ∧ homeFiles.find? [Bytes.ofString "outside", Bytes.ofString "home"] = none
      ∧ (Repository.prepare ⟨Bytes.ofString "repo"⟩ (path (Bytes.ofString "foo") "" leavingClient)
          homeFiles).2.find? [Bytes.ofString "outside", Bytes.ofString "home"] ≠ none
      ∧ ¬ Repository.Confines ⟨Bytes.ofString "repo"⟩ (path (Bytes.ofString "foo") "" leavingClient)
        homeFiles := by
  have hnone : homeFiles.find? [Bytes.ofString "outside", Bytes.ofString "home"] = none := by
    decide +kernel
  have hsome : (Repository.prepare ⟨Bytes.ofString "repo"⟩
      (path (Bytes.ofString "foo") "" leavingClient) homeFiles).2.find?
        [Bytes.ofString "outside", Bytes.ofString "home"] ≠ none := by
    decide +kernel
  refine ⟨by decide, by decide +kernel, by decide +kernel, hnone, hsome, fun hconfines => ?_⟩
  obtain ⟨base, htarget, hsuffix⟩ := hconfines.above (by decide) _ hnone hsome
  have hroot : homeFiles.target (Bytes.ofString "repo")
      = some (.entry [Bytes.ofString "repo", Bytes.ofString "home"]) := by
    decide +kernel
  have hbase : base = [Bytes.ofString "repo", Bytes.ofString "home"] := by
    injection htarget.symm.trans hroot with hplace
    injection hplace
  rw [hbase] at hsuffix
  revert hsuffix
  decide

end Artifact

end ModuleMapper
