import ModuleMapper.Proofs.Rebuilding

/-!
# Sources — what is examined is what is compiled

  The bytes that a name starts with say whether it is the name of a header, and where its source lies
  (`Settings.SourceOf`).  An import compares the artifact with what it finds under that very path, and the
  command that it gives the compiler ends with it, behind the arguments of its kind
  (`Mapper.compiles_examined`).  No byte is looked at as text on the way: only the name under which a
  compilation is noted is.
-/

namespace ModuleMapper

/-! ## Where sources lie -/

/-- A name is that of a header if it is an absolute path or starts with `./`. -/
def Word.NamesHeader (name : Word) : Prop :=
  [Byte.slash] <+: name ∨ [Byte.dot, Byte.slash] <+: name

instance (name : Word) : Decidable name.NamesHeader := inferInstanceAs (Decidable (_ ∨ _))

namespace Settings

/-- A path as it is taken from the source directory, if there is one. -/
def fromSourceDir (settings : Settings) (tail : Path) : Path :=
  match settings.sourceDir with
  | some directory => directory.join tail
  | none => tail

/-- **The source of a name**: an absolute path is a source itself, one that starts with `./` is taken from the
    source directory, and so is any other name with the suffix behind it. -/
inductive SourceOf (settings : Settings) (name : Word) : Path → Prop
  | absolute : [Byte.slash] <+: name → SourceOf settings name name
  | relative : [Byte.dot, Byte.slash] <+: name → SourceOf settings name (settings.fromSourceDir name)
  | named : ¬ name.NamesHeader →
      SourceOf settings name (settings.fromSourceDir (name ++ Bytes.ofString settings.sourceSuffix))

end Settings

theorem Path.isAbsolute_iff {path : Path} : path.isAbsolute = true ↔ [Byte.slash] <+: path := by
  cases path with
  | nil =>
      constructor
      · intro h
        cases h
      · intro h
        cases List.prefix_nil.mp h
  | cons b rest =>
      rw [isAbsolute, List.head?_cons, beq_iff_eq, List.cons_prefix_cons]
      constructor
      · intro h
        exact ⟨(Option.some.inj h).symm, List.nil_prefix⟩
      · rintro ⟨rfl, -⟩
        rfl

namespace SourceUnit

variable {name : Word} {suffix : String}

theorem isHeaderName_iff : isHeaderName name = true ↔ name.NamesHeader := by
  rw [isHeaderName, Bool.or_eq_true, Path.isAbsolute_iff, List.isPrefixOf_iff_prefix]
  exact Iff.rfl

theorem ofName_of_namesHeader (h : name.NamesHeader) : ofName name suffix = ⟨name, .headerUnit⟩ :=
  if_pos (isHeaderName_iff.mpr h)

theorem ofName_of_not_namesHeader (h : ¬ name.NamesHeader) :
    ofName name suffix = ⟨name ++ Bytes.ofString suffix, .moduleUnit⟩ :=
  if_neg (mt isHeaderName_iff.mp h)

theorem kind_within (unit : SourceUnit) (directory : Option Path) :
    (unit.within directory).kind = unit.kind := by
  cases directory with
  | none => rfl
  | some directory => rfl

theorem source_within (unit : SourceUnit) (settings : Settings) :
    (unit.within settings.sourceDir).source = settings.fromSourceDir unit.source := by
  rw [Settings.fromSourceDir]
  cases settings.sourceDir with
  | none => rfl
  | some directory => rfl

end SourceUnit

namespace Settings

variable {settings : Settings} {name : Word} {source : Path}

/-- An absolute path stays what it is. -/
theorem fromSourceDir_of_absolute {tail : Path} (h : [Byte.slash] <+: tail) :
    settings.fromSourceDir tail = tail := by
  rw [fromSourceDir]
  cases settings.sourceDir with
  | none => rfl
  | some directory => exact Path.join_of_absolute directory (Path.isAbsolute_iff.mpr h)

/-- **A name has one source**, the one of its unit. -/
theorem sourceOf_iff : settings.SourceOf name source
    ↔ source = ((SourceUnit.ofName name settings.sourceSuffix).within settings.sourceDir).source := by
  rw [SourceUnit.source_within]
  constructor
  · intro h
    cases h with
    | absolute habsolute =>
        rw [SourceUnit.ofName_of_namesHeader (Or.inl habsolute), fromSourceDir_of_absolute habsolute]
    | relative hrelative => rw [SourceUnit.ofName_of_namesHeader (Or.inr hrelative)]
    | named hnamed => rw [SourceUnit.ofName_of_not_namesHeader hnamed]
  · rintro rfl
    by_cases hheader : name.NamesHeader
    · rw [SourceUnit.ofName_of_namesHeader hheader]
      rcases hheader with habsolute | hrelative
      · rw [fromSourceDir_of_absolute habsolute]
        exact .absolute habsolute
      · exact .relative hrelative
    · rw [SourceUnit.ofName_of_not_namesHeader hheader]
      exact .named hheader

end Settings

/-! ## What is compiled -/

namespace Invocation

/-- A command compiles a source under a name: the source is the last argument, and in front of it stands
    what the name says that it is. -/
structure Compiles (invocation : Invocation) (name : Word) (source : Path) : Prop where
  last : invocation.arguments.getLast? = some source
  header : [Bytes.ofString "-x", Bytes.ofString "c++-system-header", source] <:+ invocation.arguments
    ↔ name.NamesHeader
  module : [Bytes.ofString "-c", source] <:+ invocation.arguments ↔ ¬ name.NamesHeader

variable {settings : Settings} {name : Word}

/-- What ends with a source has one argument in front of it. -/
theorem eq_of_suffix (first : List Bytes) {second : List Bytes} {argument other source : Bytes}
    (h : first ++ [argument, source] <:+ second ++ [other, source]) : argument = other := by
  obtain ⟨front, happend⟩ := h
  rw [← List.append_assoc] at happend
  have hends : [argument, source] = [other, source] := (List.append_inj' happend rfl).2
  exact List.head_eq_of_cons_eq hends

theorem headerFlag_ne : Bytes.ofString "c++-system-header" ≠ Bytes.ofString "-c" :=
  fun h => absurd (Bytes.ofString_injective h) (by decide)

theorem Compiles.of_header {invocation : Invocation} {front : List Bytes} {source : Path}
    (h : invocation.arguments
      = front ++ [Bytes.ofString "-x", Bytes.ofString "c++-system-header", source])
    (hname : name.NamesHeader) : invocation.Compiles name source where
  last := by rw [h, List.getLast?_append]; rfl
  header := ⟨fun _ => hname, fun _ => h ▸ List.suffix_append front _⟩
  module := by
    refine ⟨fun hmodule => ?_, fun hnot => absurd hname hnot⟩
    rw [h, List.append_cons] at hmodule
    exact absurd (eq_of_suffix [] hmodule).symm headerFlag_ne

theorem Compiles.of_module {invocation : Invocation} {front : List Bytes} {source : Path}
    (h : invocation.arguments = front ++ [Bytes.ofString "-c", source])
    (hname : ¬ name.NamesHeader) : invocation.Compiles name source where
  last := by rw [h, List.getLast?_append]; rfl
  header := by
    refine ⟨fun hheader => ?_, fun hnamed => absurd hnamed hname⟩
    rw [h] at hheader
    exact absurd (eq_of_suffix [Bytes.ofString "-x"] hheader) headerFlag_ne
  module := ⟨fun _ => hname, fun _ => h ▸ List.suffix_append front _⟩

/-- The arguments that are the same for every unit. -/
def settingArguments (settings : Settings) : List Bytes :=
  [Bytes.ofString ("-std=" ++ settings.standard),
   Bytes.ofString ("-fmodule-mapper=|" ++ settings.mapperCommand),
   Bytes.ofString "-fmodules-ts"]

theorem arguments_ofUnit (settings : Settings) (unit : SourceUnit) :
    (ofUnit settings unit).arguments
      = settingArguments settings ++ (kindArguments unit.kind ++ [unit.source]) :=
  List.append_assoc (settingArguments settings) (kindArguments unit.kind) [unit.source]

/-- **The command for a unit of a name's kind compiles the source of that unit.** -/
theorem compiles_ofUnit {unit : SourceUnit}
    (h : unit.kind = (SourceUnit.ofName name settings.sourceSuffix).kind) :
    (ofUnit settings unit).Compiles name unit.source := by
  have harguments := arguments_ofUnit settings unit
  by_cases hheader : name.NamesHeader
  · rw [h, SourceUnit.ofName_of_namesHeader hheader] at harguments
    exact .of_header harguments hheader
  · rw [h, SourceUnit.ofName_of_not_namesHeader hheader] at harguments
    exact .of_module harguments hheader

end Invocation

namespace Mapper

variable {σ : Type} {mapper : Mapper σ} {client : Client} {name : Word} {w : Workspace σ}

theorem compiles_invocationOf (mapper : Mapper σ) (name : Word) :
    (mapper.invocationOf name).Compiles name (mapper.sourceFor name) :=
  Invocation.compiles_ofUnit (SourceUnit.kind_within _ _)

/-! ## What an import compiles -/

/-- An import compiles what it has examined.  Once the steps in front of it have succeeded, it goes by the
    artifact and `source`; and all that it ever gives the compiler is `invocation`, the command for that same
    source. -/
structure CompilesExamined (mapper : Mapper σ) (client : Client) (name : Word) (source : Path)
    (invocation : Invocation) : Prop where
  spelled : ∀ path, mapper.settings.SourceOf name path ↔ path = source
  compiles : invocation.Compiles name source
  examined : ∀ w : Workspace σ, mapper.Prepares client name w →
    mapper.Examines client name w (Artifact.path name mapper.settings.crossPrefix client)
      (mapper.fileFor client name) source invocation
  called : ∀ w : Workspace σ, ∃ made, mapper.Calls client name w made
    ∧ ∀ call ∈ made, Byte.nul ∉ name ∧ mapper.Prepares client name w ∧ call.invocation = invocation

/-- **The source that an import examines is the source that it compiles**, byte for byte, whatever the bytes
    of the name and of the settings are. -/
theorem compiles_examined (mapper : Mapper σ) (client : Client) (name : Word) :
    mapper.CompilesExamined client name (mapper.sourceFor name) (mapper.invocationOf name) where
  spelled := fun _ => Settings.sourceOf_iff
  compiles := mapper.compiles_invocationOf name
  examined := fun _ hprepares => hprepares.examines
  called := by
    intro w
    obtain ⟨made, hmade, -, hbuilds, hcall⟩ := exists_calls mapper client name w
    refine ⟨made, hmade, ?_⟩
    intro call hmem
    -- there is no call unless the artifact was prepared and is out of date
    have hprepares := (hbuilds.mp (List.ne_nil_of_mem hmem)).1
    rw [hcall call hmem]
    exact ⟨hprepares.named, hprepares, rfl⟩

end Mapper

end ModuleMapper
