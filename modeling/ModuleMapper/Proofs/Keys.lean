import ModuleMapper.Proofs.Artifacts

/-!
# Keys — what the path of an artifact tells of its module and its client

  A path tells its layout by its third byte, and with that its file name, which is a digest and the
  *ending* of a client.  So paths are the same just if digests, layouts and endings are
  (`path_eq_path_iff`).

  The digest tells the module and the target, as far as SHA-256 tells apart what is digested
  (`path_injective`).  The ending does not tell the client: its two words stand in it with a dash between
  them, and dashes may stand in the words (`path_client_eq_iff`).
-/

namespace ModuleMapper

namespace Digest

theorem hex_cons (b : UInt8) (rest : Bytes) :
    hex (b :: rest) = hexByte (b >>> 4) :: hexByte (b &&& 0x0F) :: hex rest := rfl

/-- A digit tells its number. -/
theorem hexByte_injective {m n : UInt8} (hm : m < 16) (hn : n < 16) (h : hexByte m = hexByte n) :
    m = n := by
  unfold hexByte at h
  split at h
  · split at h
    · grind
    · grind
  · split at h
    · grind
    · grind

theorem toNat_high (b : UInt8) : (b >>> 4).toNat = b.toNat / 16 := by
  rw [UInt8.toNat_shiftRight]
  exact Nat.shiftRight_eq_div_pow b.toNat 4

theorem toNat_low (b : UInt8) : (b &&& 0x0F).toNat = b.toNat % 16 := by
  rw [UInt8.toNat_and]
  exact Nat.and_two_pow_sub_one_eq_mod b.toNat 4

/-- Two digits tell their byte. -/
theorem eq_of_hexBytes {b c : UInt8} (hhigh : hexByte (b >>> 4) = hexByte (c >>> 4))
    (hlow : hexByte (b &&& 0x0F) = hexByte (c &&& 0x0F)) : b = c := by
  have hsmall : ∀ d : UInt8, d >>> 4 < 16 ∧ d &&& 0x0F < 16 := by
    intro d
    rw [UInt8.lt_iff_toNat_lt, UInt8.lt_iff_toNat_lt, toNat_high, toNat_low]
    have := d.toNat_lt
    exact ⟨by show d.toNat / 16 < 16; omega, by show d.toNat % 16 < 16; omega⟩
  have hdiv := congrArg UInt8.toNat (hexByte_injective (hsmall b).1 (hsmall c).1 hhigh)
  have hmod := congrArg UInt8.toNat (hexByte_injective (hsmall b).2 (hsmall c).2 hlow)
  rw [toNat_high, toNat_high] at hdiv
  rw [toNat_low, toNat_low] at hmod
  apply UInt8.toNat_inj.mp
  omega

/-- Hexadecimal digits tell what they were made of.  Induction on the bytes. -/
theorem hex_injective {bytes other : Bytes} (h : hex bytes = hex other) : bytes = other := by
  induction bytes generalizing other with
  | nil =>
      cases other with
      | nil => rfl
      | cons c more => cases h
  | cons b rest ih =>
      cases other with
      | nil => cases h
      | cons c more =>
          rw [hex_cons, hex_cons] at h
          injection h with hhigh h
          injection h with hlow h
          rw [eq_of_hexBytes hhigh hlow, ih h]

end Digest

/-- What a client adds to a digest in the name of a file. -/
def Client.ending (client : Client) : Bytes :=
  if client.build = [] then Byte.dash :: client.compiler ++ Bytes.ofString ".cmi"
  else Byte.dash :: client.build ++ Byte.dash :: client.compiler

namespace Artifact

variable {name other : Word} {crossPrefix otherPrefix : String} {client otherClient : Client}

/-! ## What is digested -/

/-- Two parts with a separator between them are told apart, unless they are split at separators that
    stand in the parts. -/
theorem append_cons_cases {separator : UInt8} {first second rest more : Bytes}
    (h : first ++ separator :: rest = second ++ separator :: more) :
    first = second ∧ rest = more
      ∨ (∃ middle, second = first ++ separator :: middle ∧ rest = middle ++ separator :: more)
      ∨ ∃ middle, first = second ++ separator :: middle ∧ more = middle ++ separator :: rest := by
  rcases List.append_eq_append_iff.mp h with ⟨between, hbetween, hrest⟩ | ⟨between, hbetween, hrest⟩
  · cases between with
    | nil =>
        injection hrest with _ hrest
        exact Or.inl ⟨(hbetween.trans (List.append_nil _)).symm, hrest⟩
    | cons b middle =>
        injection hrest with hb hrest
        exact Or.inr (Or.inl ⟨middle, hb ▸ hbetween, hrest⟩)
  · cases between with
    | nil =>
        injection hrest with _ hrest
        exact Or.inl ⟨hbetween.trans (List.append_nil _), hrest.symm⟩
    | cons b middle =>
        injection hrest with hb hrest
        exact Or.inr (Or.inr ⟨middle, hb ▸ hbetween, hrest⟩)

/-- The first separator tells what stands in front of it from what stands behind it. -/
theorem append_cons_inj {separator : UInt8} {first second rest more : Bytes}
    (hfirst : separator ∉ first) (hsecond : separator ∉ second)
    (h : first ++ separator :: rest = second ++ separator :: more) : first = second ∧ rest = more := by
  rcases append_cons_cases h with hsame | ⟨middle, hsplit, -⟩ | ⟨middle, hsplit, -⟩
  · exact hsame
  · refine absurd ?_ hsecond
    rw [hsplit]
    exact List.mem_append_right _ List.mem_cons_self
  · refine absurd ?_ hfirst
    rw [hsplit]
    exact List.mem_append_right _ List.mem_cons_self

/-- **What is digested tells the name and the prefix**, whatever the prefixes hold. -/
theorem digestInput_injective (hname : Byte.nul ∉ name) (hother : Byte.nul ∉ other)
    (h : digestInput name crossPrefix = digestInput other otherPrefix) :
    name = other ∧ crossPrefix = otherPrefix := by
  unfold digestInput at h
  split at h
  · next hempty =>
      split at h
      · next hempty' => exact ⟨h, hempty.trans hempty'.symm⟩
      · -- A prefix brings a separator with it, and there is none in the name.
        refine absurd ?_ hname
        rw [h]
        exact List.mem_append_right _ List.mem_cons_self
  · split at h
    · refine absurd ?_ hother
      rw [← h]
      exact List.mem_append_right _ List.mem_cons_self
    · obtain ⟨hnames, hprefixes⟩ := append_cons_inj hname hother h
      exact ⟨hnames, Bytes.ofString_injective hprefixes⟩

/-! ## Layouts -/

theorem fileName_eq (name : Word) (crossPrefix : String) (client : Client) :
    fileName name crossPrefix client = digest name crossPrefix ++ client.ending := by
  unfold fileName key keyOf Client.ending
  split
  · rw [List.append_nil, List.append_assoc]
  · rw [List.append_nil, List.append_assoc]

theorem shards_of_sharded (name : Word) (crossPrefix : String) (h : client.build = []) :
    shards name crossPrefix client
      = [(digest name crossPrefix).take 2, ((digest name crossPrefix).drop 2).take 2] := if_pos h

theorem shards_of_flat (name : Word) (crossPrefix : String) (h : client.build ≠ []) :
    shards name crossPrefix client = [] := if_neg h

/-- Behind digits a relative path is joined with a slash. -/
theorem join_of_digits {front digits tail : Bytes} (hne : digits ≠ [])
    (hdigits : ∀ b ∈ digits, Digest.IsHexDigit b) (htail : Path.isAbsolute tail = false) :
    Path.join (front ++ digits) tail = front ++ digits ++ Byte.slash :: tail := by
  have hlast : (front ++ digits).getLast? = some (digits.getLast hne) := by
    rw [List.getLast?_append, List.getLast?_eq_some_getLast hne]
    rfl
  rw [Path.join, if_neg (Bool.eq_false_iff.mp htail), if_neg]
  rw [not_or, hlast]
  exact ⟨List.append_ne_nil_of_right_ne_nil _ hne, fun hslash =>
    (hdigits _ (List.getLast_mem hne)).ne_slash (Option.some.inj hslash)⟩

theorem join_join_of_digits {first second tail : Bytes}
    (hfirst : first.length = 2 ∧ ∀ b ∈ first, Digest.IsHexDigit b)
    (hsecond : second.length = 2 ∧ ∀ b ∈ second, Digest.IsHexDigit b)
    (hrelative : Path.isAbsolute second = false) (htail : Path.isAbsolute tail = false) :
    Path.join (Path.join first second) tail = Path.ofNames [first, second, tail] := by
  have hne : ∀ digits : Bytes, digits.length = 2 → digits ≠ [] := by
    rintro digits hlength rfl
    cases hlength
  have hinner : Path.join ([] ++ first) second = [] ++ first ++ Byte.slash :: second :=
    join_of_digits (hne first hfirst.1) hfirst.2 hrelative
  rw [List.nil_append] at hinner
  rw [hinner, List.append_cons, join_of_digits (hne second hsecond.1) hsecond.2 htail,
    List.append_assoc, List.append_assoc]
  rfl

/-- **No part of an artifact's path gives way to another**: it is the shards and the file name, with
    slashes between them. -/
theorem path_eq_ofNames (name : Word) (crossPrefix : String) (client : Client) :
    path name crossPrefix client
      = Path.ofNames (shards name crossPrefix client ++ [fileName name crossPrefix client]) := by
  by_cases hbuild : client.build = []
  · have hshards := shards_of_sharded name crossPrefix hbuild
    have hmem : ∀ shard ∈ [(digest name crossPrefix).take 2, ((digest name crossPrefix).drop 2).take 2],
        shard ∈ shards name crossPrefix client := fun shard hshard => hshards ▸ hshard
    have hfirst := hmem _ List.mem_cons_self
    have hsecond := hmem _ (List.mem_cons_of_mem _ List.mem_cons_self)
    rw [hshards]
    simp only [path, if_pos hbuild]
    rw [join_join_of_digits (length_of_mem_shards hfirst) (length_of_mem_shards hsecond)
      (solid_of_mem_shards hsecond).2]
    · simp only [fileName, key, if_pos hbuild]
      rfl
    · have hfile : Path.isAbsolute (fileName name crossPrefix client) = false := isAbsolute_fileName
      simp only [fileName, key, if_pos hbuild] at hfile
      exact hfile
  · rw [shards_of_flat name crossPrefix hbuild]
    simp only [path, fileName, key, if_neg hbuild, List.append_nil]
    rfl

/-- The third byte of a path tells its layout. -/
theorem getElem?_path (name : Word) (crossPrefix : String) (client : Client) :
    (path name crossPrefix client)[2]? = some Byte.slash ↔ client.build = [] := by
  rw [path_eq_ofNames]
  constructor
  · intro h
    refine Classical.byContradiction fun hbuild => ?_
    have hlong : 2 < (digest name crossPrefix).length := by
      rw [length_digest]
      decide
    rw [shards_of_flat name crossPrefix hbuild] at h
    change (fileName name crossPrefix client)[2]? = _ at h
    rw [fileName_eq, List.getElem?_append_left hlong] at h
    exact (isHexDigit_of_mem_digest (List.mem_of_getElem? h)).ne_slash rfl
  · intro hbuild
    have hlength : ((digest name crossPrefix).take 2).length = 2 := rfl
    rw [shards_of_sharded name crossPrefix hbuild]
    show (_ ++ Byte.slash :: _)[2]? = _
    rw [List.getElem?_append_right (Nat.le_of_eq hlength), hlength]
    rfl

/-- Within a layout, paths are the same just if their shards and file names are. -/
theorem eq_of_path_eq (hlayout : client.build = [] ↔ otherClient.build = [])
    (h : path name crossPrefix client = path other otherPrefix otherClient) :
    fileName name crossPrefix client = fileName other otherPrefix otherClient := by
  rw [path_eq_ofNames, path_eq_ofNames] at h
  by_cases hbuild : client.build = []
  · have hbuild' := hlayout.mp hbuild
    have hlength : ∀ (name : Word) (crossPrefix : String),
        ((digest name crossPrefix).take 2).length = 2
          ∧ (((digest name crossPrefix).drop 2).take 2).length = 2 := fun _ _ => ⟨rfl, rfl⟩
    rw [shards_of_sharded name crossPrefix hbuild, shards_of_sharded other otherPrefix hbuild'] at h
    obtain ⟨-, h⟩ := List.append_inj h ((hlength _ _).1.trans (hlength _ _).1.symm)
    injection h with _ h
    obtain ⟨-, h⟩ := List.append_inj h ((hlength _ _).2.trans (hlength _ _).2.symm)
    injection h
  · rw [shards_of_flat name crossPrefix hbuild,
      shards_of_flat other otherPrefix (mt hlayout.mpr hbuild)] at h
    exact h

/-- **When paths are the same**: their digests are, they have the same layout, and the clients add the
    same to the digest. -/
theorem path_eq_path_iff :
    path name crossPrefix client = path other otherPrefix otherClient
      ↔ digest name crossPrefix = digest other otherPrefix
        ∧ (client.build = [] ↔ otherClient.build = []) ∧ client.ending = otherClient.ending := by
  constructor
  · intro h
    have hlayout : client.build = [] ↔ otherClient.build = [] := by
      rw [← getElem?_path name crossPrefix client, h, getElem?_path]
    have hfile := eq_of_path_eq hlayout h
    rw [fileName_eq, fileName_eq] at hfile
    obtain ⟨hdigest, hending⟩ := List.append_inj hfile
      ((length_digest name crossPrefix).trans (length_digest other otherPrefix).symm)
    exact ⟨hdigest, hlayout, hending⟩
  · rintro ⟨hdigest, hlayout, hending⟩
    have hshards : shards name crossPrefix client = shards other otherPrefix otherClient := by
      simp only [shards, hdigest, hlayout]
    rw [path_eq_ofNames, path_eq_ofNames, hshards, fileName_eq, fileName_eq, hdigest, hending]

/-- **A path tells the module and the target**, as far as SHA-256 tells apart what is digested for them:
    whatever clients say of themselves, modules that share an artifact have the same name and the same
    cross-compile prefix.  The two layouts have no path in common, and in neither does one part of the
    path give way to another. -/
theorem path_injective :
    (∀ (name other : Word) (crossPrefix otherPrefix : String) (client otherClient : Client),
        Byte.nul ∉ name → Byte.nul ∉ other →
        (Digest.sha256 (digestInput name crossPrefix) = Digest.sha256 (digestInput other otherPrefix) →
          digestInput name crossPrefix = digestInput other otherPrefix) →
        path name crossPrefix client = path other otherPrefix otherClient →
          name = other ∧ crossPrefix = otherPrefix)
      ∧ (∀ (name other : Word) (crossPrefix otherPrefix : String) (client otherClient : Client),
        client.build = [] → otherClient.build ≠ [] →
          path name crossPrefix client ≠ path other otherPrefix otherClient)
      ∧ ∀ (name : Word) (crossPrefix : String) (client : Client),
        path name crossPrefix client
          = Path.ofNames (shards name crossPrefix client ++ [fileName name crossPrefix client]) := by
  refine ⟨?_, ?_, path_eq_ofNames⟩
  · intro name other crossPrefix otherPrefix client otherClient hname hother hcollision h
    obtain ⟨hdigest, -, -⟩ := path_eq_path_iff.mp h
    exact digestInput_injective hname hother (hcollision (Digest.hex_injective hdigest))
  · intro name other crossPrefix otherPrefix client otherClient hsharded hflat h
    obtain ⟨-, hlayout, -⟩ := path_eq_path_iff.mp h
    exact hflat (hlayout.mp hsharded)

/-- A client with a dash in its compiler, and one with a dash in its build. -/
def lateDash : Client := { compiler := Bytes.ofString "b-c", build := Bytes.ofString "a" }

def earlyDash : Client := { compiler := Bytes.ofString "c", build := Bytes.ofString "a-b" }

/-- Two clients share the artifact of the module `ab` for the target `c`.  Neither has it in common with the
    module `a` for the target `bc`, with the module `ab` for no target, or with a client that has no build. -/
theorem path_injective_ab :
    path (Bytes.ofString "ab") "c" lateDash = path (Bytes.ofString "ab") "c" earlyDash
      ∧ Byte.nul ∉ Bytes.ofString "ab" ∧ Byte.nul ∉ Bytes.ofString "a"
      ∧ (Digest.sha256 (digestInput (Bytes.ofString "ab") "c")
            = Digest.sha256 (digestInput (Bytes.ofString "a") "bc") →
          digestInput (Bytes.ofString "ab") "c" = digestInput (Bytes.ofString "a") "bc")
      ∧ path (Bytes.ofString "ab") "c" lateDash ≠ path (Bytes.ofString "a") "bc" earlyDash
      ∧ (Digest.sha256 (digestInput (Bytes.ofString "ab") "c")
            = Digest.sha256 (digestInput (Bytes.ofString "ab") "") →
          digestInput (Bytes.ofString "ab") "c" = digestInput (Bytes.ofString "ab") "")
      ∧ path (Bytes.ofString "ab") "c" lateDash ≠ path (Bytes.ofString "ab") "" earlyDash
      ∧ path (Bytes.ofString "ab") "c" {} ≠ path (Bytes.ofString "ab") "c" lateDash := by
  have hname : Byte.nul ∉ Bytes.ofString "ab" := by decide
  have hother : Byte.nul ∉ Bytes.ofString "a" := by decide
  have hshared : path (Bytes.ofString "ab") "c" lateDash = path (Bytes.ofString "ab") "c" earlyDash :=
    path_eq_path_iff.mpr ⟨rfl, by decide, by decide⟩
  have hnames : Digest.sha256 (digestInput (Bytes.ofString "ab") "c")
        = Digest.sha256 (digestInput (Bytes.ofString "a") "bc") →
      digestInput (Bytes.ofString "ab") "c" = digestInput (Bytes.ofString "a") "bc" := by
    decide +kernel
  have hprefixes : Digest.sha256 (digestInput (Bytes.ofString "ab") "c")
        = Digest.sha256 (digestInput (Bytes.ofString "ab") "") →
      digestInput (Bytes.ofString "ab") "c" = digestInput (Bytes.ofString "ab") "" := by
    decide +kernel
  obtain ⟨hinjective, hlayouts, -⟩ := path_injective
  refine ⟨hshared, hname, hother, hnames, ?_, hprefixes, ?_, ?_⟩
  · intro h
    exact absurd (hinjective _ _ _ _ _ _ hname hother hnames h).1 (by decide)
  · intro h
    exact absurd (hinjective _ _ _ _ _ _ hname hname hprefixes h).2 (by decide)
  · exact hlayouts _ _ _ _ _ _ rfl (by decide)

/-! ## Clients -/

end Artifact

/-- Two clients say the same, with another dash between the two words: where the one has a dash in its
    build, the other has it in its compiler. -/
def Client.Regroups (client other : Client) : Prop :=
  other.build ≠ [] ∧ ∃ middle, client.build = other.build ++ Byte.dash :: middle
    ∧ other.compiler = middle ++ Byte.dash :: client.compiler

namespace Artifact

variable {client other : Client}

theorem layout_of_regroups (h : client.Regroups other) : client.build = [] ↔ other.build = [] := by
  obtain ⟨hother, middle, hbuild, -⟩ := h
  refine ⟨fun hempty => absurd hempty ?_, fun hempty => absurd hempty hother⟩
  rw [hbuild]
  exact List.append_ne_nil_of_left_ne_nil hother _

theorem ending_of_regroups (h : client.Regroups other) : client.ending = other.ending := by
  obtain ⟨hother, middle, hbuild, hcompiler⟩ := h
  have hne : client.build ≠ [] := by
    rw [hbuild]
    exact List.append_ne_nil_of_left_ne_nil hother _
  rw [Client.ending, Client.ending, if_neg hne, if_neg hother, hbuild, hcompiler]
  simp only [List.cons_append, List.append_assoc]

/-- Within a layout, clients that add the same to a digest are the same, but for a dash. -/
theorem eq_or_regroups_of_ending (hlayout : client.build = [] ↔ other.build = [])
    (h : client.ending = other.ending) :
    client = other ∨ client.Regroups other ∨ other.Regroups client := by
  have hclient : client.build = other.build → client.compiler = other.compiler → client = other := by
    cases client
    cases other
    rintro rfl rfl
    rfl
  unfold Client.ending at h
  by_cases hbuild : client.build = []
  · have hbuild' := hlayout.mp hbuild
    rw [if_pos hbuild, if_pos hbuild'] at h
    injection h with _ h
    exact Or.inl (hclient (hbuild.trans hbuild'.symm) (List.append_cancel_right h))
  · have hbuild' := mt hlayout.mpr hbuild
    rw [if_neg hbuild, if_neg hbuild'] at h
    injection h with _ h
    rcases append_cons_cases h with ⟨hbuilds, hcompilers⟩ | ⟨middle, hsplit, hcompiler⟩
      | ⟨middle, hsplit, hcompiler⟩
    · exact Or.inl (hclient hbuilds hcompilers)
    · exact Or.inr (Or.inr ⟨hbuild, middle, hsplit, hcompiler⟩)
    · exact Or.inr (Or.inl ⟨hbuild', middle, hsplit, hcompiler⟩)

/-- **When clients share the artifacts of a module**: they are the same, or regroup each other's words. -/
theorem path_client_eq_iff (name : Word) (crossPrefix : String) (client other : Client) :
    path name crossPrefix client = path name crossPrefix other
      ↔ client = other ∨ client.Regroups other ∨ other.Regroups client := by
  constructor
  · intro h
    obtain ⟨-, hlayout, hending⟩ := path_eq_path_iff.mp h
    exact eq_or_regroups_of_ending hlayout hending
  · rintro (rfl | hregroups | hregroups)
    · rfl
    · exact path_eq_path_iff.mpr
        ⟨rfl, layout_of_regroups hregroups, ending_of_regroups hregroups⟩
    · exact path_eq_path_iff.mpr
        ⟨rfl, (layout_of_regroups hregroups).symm, (ending_of_regroups hregroups).symm⟩

/-- Clients that differ can share an artifact. -/
theorem path_lateDash_eq :
    lateDash ≠ earlyDash
      ∧ path (Bytes.ofString "foo") "" lateDash = path (Bytes.ofString "foo") "" earlyDash := by
  refine ⟨by decide, path_eq_path_iff.mpr ⟨rfl, by decide, by decide⟩⟩

end Artifact

end ModuleMapper
