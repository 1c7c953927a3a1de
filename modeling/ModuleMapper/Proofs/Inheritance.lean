import ModuleMapper.Program.Basic
import ModuleMapper.Proofs.CommandLines

/-!
# Inheritance — the settings of a mapper that a compiler starts

  A child sees the variables that its invocation sets, and below them those of its mapper
  (`Child.lookup_environment`).  The invocation sets the variable of every setting that has a value, so a
  *nested* mapper, which is called by its name alone, works with the same settings, and finds artifacts
  under the same paths.

  An empty prefix is the exception: no variable is set for it, and the one that is inherited can say
  something else.  Nested mappers are alike just if it does not (`nested_alike`); otherwise they
  look for artifacts of another target (`not_alike_emptyStart`).
-/

namespace ModuleMapper

theorem Text.lossy_ne_empty {bytes : Bytes} (h : bytes ≠ []) : lossy bytes ≠ "" := by
  obtain ⟨b, rest, rfl⟩ := List.exists_cons_of_ne_nil h
  intro heq
  have hchars := congrArg String.toList heq
  rw [lossy, String.toList_ofList, lossyChars] at hchars
  exact absurd hchars (List.cons_ne_nil _ _)

/-! ## Variables of a child -/

namespace Child

theorem lookup_eq_find? (entries : List (Bytes × Bytes)) (key : Bytes) :
    entries.lookup key = (entries.find? fun entry => key == entry.1).map Prod.snd := by
  induction entries with
  | nil => rfl
  | cons entry rest ih =>
      obtain ⟨name, value⟩ := entry
      rw [List.lookup_cons, List.find?_cons]
      cases key == name with
      | true => rfl
      | false => exact ih

/-- Sorting by names changes no variable: entries with the same name stay in order. -/
theorem lookup_mergeSort (entries : List (Bytes × Bytes)) (key : Bytes) :
    (entries.mergeSort fun a b => decide (a.1 ≤ b.1)).lookup key = entries.lookup key := by
  have hsub : (entries.filter fun entry => key == entry.1).Sublist
      (entries.mergeSort fun a b => decide (a.1 ≤ b.1)) := by
    refine List.sublist_mergeSort ?_ ?_ ?_ List.filter_sublist
    · intro a b c hab hbc
      exact decide_eq_true (List.le_trans (of_decide_eq_true hab) (of_decide_eq_true hbc))
    · intro a b
      rw [Bool.or_eq_true, decide_eq_true_iff, decide_eq_true_iff]
      exact List.le_total a.1 b.1
    · refine List.pairwise_of_forall_mem_list fun a ha b hb => ?_
      rw [← eq_of_beq (List.mem_filter.mp ha).2, ← eq_of_beq (List.mem_filter.mp hb).2]
      exact decide_eq_true (List.le_refl key)
  -- The entries of a name are still there in their order, and there are no others.
  have hsame := hsub.filter fun entry => key == entry.1
  rw [List.filter_filter] at hsame
  simp only [Bool.and_self] at hsame
  have hlength := ((List.mergeSort_perm entries fun a b => decide (a.1 ≤ b.1)).filter
    fun entry => key == entry.1).length_eq
  rw [lookup_eq_find?, lookup_eq_find?, ← List.head?_filter, ← List.head?_filter,
    hsame.eq_of_length hlength.symm]

theorem lookup_map_ofString (entries : List (String × Bytes)) (name : String) :
    (entries.map fun entry => (Bytes.ofString entry.1, entry.2)).lookup (Bytes.ofString name)
      = entries.lookup name := by
  induction entries with
  | nil => rfl
  | cons entry rest ih =>
      obtain ⟨other, value⟩ := entry
      have hname : (Bytes.ofString name == Bytes.ofString other) = (name == other) := by
        rw [Bool.eq_iff_iff, beq_iff_eq, beq_iff_eq]
        exact ⟨Bytes.ofString_injective, congrArg Bytes.ofString⟩
      rw [List.map_cons, List.lookup_cons, List.lookup_cons, hname, ih]

/-- What is taken away from inherited variables is set anew. -/
theorem lookup_filter {own : List (String × Bytes)} {name : String} (h : own.lookup name = none)
    (inherited : List (String × Bytes)) :
    (inherited.filter fun entry => !own.any fun set => set.1 == entry.1).lookup name
      = inherited.lookup name := by
  induction inherited with
  | nil => rfl
  | cons entry rest ih =>
      obtain ⟨other, value⟩ := entry
      rw [List.filter_cons]
      split
      · rw [List.lookup_cons, List.lookup_cons, ih]
      · next hset =>
          rw [Bool.not_eq_true', Bool.not_eq_false, List.any_eq_true] at hset
          obtain ⟨set, hmem, hname⟩ := hset
          have hne := List.lookup_eq_none_iff.mp h set hmem
          rw [eq_of_beq hname] at hne
          rw [ih, List.lookup_cons, Bool.eq_false_iff.mpr (bne_iff_ne.mp hne ∘ eq_of_beq)]

/-- **The variables of a child**: those that the invocation sets, and below them those of the mapper. -/
theorem lookup_environment (inherited : List (String × Bytes)) (invocation : Invocation)
    (name : String) :
    (environment inherited invocation).lookup (Bytes.ofString name)
      = (invocation.bindings.lookup name).or (inherited.lookup name) := by
  rw [environment, lookup_mergeSort, lookup_map_ofString, List.lookup_append]
  cases hown : invocation.bindings.lookup name with
  | some value => rfl
  | none => rw [lookup_filter hown]

end Child

/-- An invocation sets the variable of a setting to its value, but for an empty prefix. -/
theorem Invocation.lookup_bindingsOf (settings : Settings) (setting : Setting) :
    (bindingsOf settings).lookup setting.variableName
      = if setting = .crossPrefix ∧ settings.crossPrefix = "" then none
        else settings.value? setting := by
  cases setting with
  | repositoryDir | compiler | standard => rfl
  | crossPrefix =>
      by_cases hprefix : settings.crossPrefix = ""
      · rw [if_pos ⟨rfl, hprefix⟩, bindingsOf, if_pos hprefix]
        cases settings.sourceDir with
        | none => rfl
        | some directory => rfl
      · rw [if_neg fun hempty => hprefix hempty.2, bindingsOf, if_neg hprefix]
        rfl
  | sourceDir =>
      rw [if_neg fun hempty => Setting.noConfusion hempty.1, bindingsOf, Settings.value?]
      split
      · cases settings.sourceDir with
        | none => rfl
        | some directory => rfl
      · cases settings.sourceDir with
        | none => rfl
        | some directory => rfl

/-! ## Settings that are accepted -/

namespace Settings

/-- Settings that are accepted are accepted with any other mapper. -/
theorem check_command {settings : Settings} {command : String} (h : settings.check = .ok ())
    (hcommand : command ≠ "") :
    ({ settings with mapperCommand := command } : Settings).check = .ok () := by
  simp only [check] at h ⊢
  split at h
  · cases h
  · next hcompiler =>
      split at h
      · cases h
      · next hstandard =>
          split at h
          · cases h
          · split at h
            · cases h
            · next hprefix =>
                rw [if_neg hcompiler, if_neg hstandard, if_neg hcommand, if_neg hprefix]

/-- What a mapper is called by has no value of its own. -/
theorem value?_command (settings : Settings) (command : String) (setting : Setting) :
    ({ settings with mapperCommand := command } : Settings).value? setting
      = settings.value? setting := by
  cases setting with
  | _ => rfl

end Settings

namespace Program

open CommandLine

/-- The settings that the program serves with, if it serves. -/
def Start.settings? (start : Start) : Option Settings :=
  match parse start.arguments start.environment with
  | .work options =>
    let settings := { options.settings with mapperCommand := Text.lossy start.name }
    if options.dumpBlocks then none
    else
      match settings.check with
      | .ok () => some settings
      | .error _ => none
  | _ => none

/-- The path under which the program looks for an artifact, if it serves. -/
def Start.pathOf? (launcher : Launcher) (start : Start) (client : Client) (name : Word) :
    Option (Except Failure Path) :=
  start.settings?.map fun settings =>
    Mapper.pathOf ⟨settings, launcher.compiler start.environment⟩ client name

/-- A mapper that is started by the child of another: by some name, without arguments, and with the
    child's variables for all settings. -/
structure Start.Nests (start : Start) (invocation : Invocation) (nested : Start) : Prop where
  named : nested.name ≠ []
  alone : nested.arguments = []
  handed : ∀ setting : Setting, nested.environment.lookup setting.variableName
    = (Child.environment start.environment invocation).lookup (Bytes.ofString setting.variableName)

/-- Where the prefix is empty, no other is inherited. -/
def Start.HandsPrefixOn (start : Start) (settings : Settings) : Prop :=
  settings.crossPrefix = "" →
    ∀ value, start.environment.lookup Setting.crossPrefix.variableName = some value → value = []

variable {start nested : Start} {settings inner : Settings} {invocation : Invocation} {unit : SourceUnit}
  {options : Options}

theorem settings?_eq_some_iff : start.settings? = some settings ↔
    ∃ options, parse start.arguments start.environment = .work options ∧ options.dumpBlocks = false
      ∧ settings = { options.settings with mapperCommand := Text.lossy start.name }
      ∧ settings.check = .ok () := by
  unfold Start.settings?
  constructor
  · intro h
    split at h
    · next options hparse =>
        refine ⟨options, hparse, ?_⟩
        simp only at h
        split at h
        · cases h
        · next hdump =>
            split at h
            · next hcheck =>
                injection h with h
                exact ⟨Bool.eq_false_iff.mpr hdump, h.symm, h ▸ hcheck⟩
            · cases h
    · cases h
  · rintro ⟨options, hparse, hdump, rfl, hcheck⟩
    simp only [hparse, hdump, hcheck]
    rfl

/-- The program serves with the settings that it has. -/
theorem run_of_settings? (launcher : Launcher) (h : start.settings? = some settings) :
    runBy launcher start = serve launcher settings start := by
  obtain ⟨options, hparse, hdump, rfl, hcheck⟩ := settings?_eq_some_iff.mp h
  simp only [runBy, hparse, hdump, hcheck]
  rfl

/-- Settings that are accepted: they can all be values, and the only ones without a value are those that
    no variable gives and that usually have none. -/
theorem accepted_of_settings? (h : start.settings? = some settings) :
    settings.Admitted ∧ settings.sourceSuffix = ({} : Settings).sourceSuffix
      ∧ ∀ setting, settings.value? setting = none →
        start.environment.lookup setting.variableName = none
          ∧ ({} : Settings).value? setting = none := by
  obtain ⟨options, hparse, -, rfl, -⟩ := settings?_eq_some_iff.mp h
  have hsound := sound_of_parse hparse
  refine ⟨fun setting value hvalue => ?_, hsound.suffix, fun setting hnone => ?_⟩
  · rw [Settings.value?_command] at hvalue
    exact hsound.admitted setting value hvalue
  · rw [Settings.value?_command] at hnone
    have hgiven : setting ∉ options.given := fun hmem => hsound.given setting hmem hnone
    rw [hsound.fallback setting hgiven] at hnone
    exact Option.or_eq_none_iff.mp hnone

/-- **What the variables of a nested mapper say**: the values of the settings, but for an empty prefix
    what is inherited. -/
theorem lookup_nested (h : start.settings? = some settings)
    (hnests : start.Nests (Invocation.ofUnit settings unit) nested) (setting : Setting) :
    nested.environment.lookup setting.variableName
      = if setting = .crossPrefix ∧ settings.crossPrefix = "" then
          start.environment.lookup setting.variableName
        else settings.value? setting := by
  rw [hnests.handed, Child.lookup_environment]
  show ((Invocation.bindingsOf settings).lookup _).or _ = _
  rw [Invocation.lookup_bindingsOf]
  split
  · rfl
  · cases hvalue : settings.value? setting with
    | some value => rfl
    | none =>
        -- Nothing is set for it, but then nothing is inherited either.
        exact ((accepted_of_settings? h).2.2 setting hvalue).1

/-- The values of a nested mapper are those of the mapper, but for an empty prefix. -/
theorem value?_nested (h : start.settings? = some settings)
    (hnests : start.Nests (Invocation.ofUnit settings unit) nested)
    (hparse : parse [] nested.environment = .work options) (setting : Setting) :
    options.settings.value? setting
      = if setting = .crossPrefix ∧ settings.crossPrefix = "" then
          (start.environment.lookup setting.variableName).or (({} : Settings).value? setting)
        else settings.value? setting := by
  rw [value?_of_parse_nil hparse, lookup_nested h hnests]
  split
  · rfl
  · cases hvalue : settings.value? setting with
    | some value => rfl
    | none =>
        rw [Option.none_or]
        exact ((accepted_of_settings? h).2.2 setting hvalue).2

/-- Only the prefix of a nested mapper can differ. -/
theorem eq_of_nests (h : start.settings? = some settings)
    (hnests : start.Nests (Invocation.ofUnit settings unit) nested)
    (hparse : parse [] nested.environment = .work options) (command : String) :
    ({ options.settings with mapperCommand := command } : Settings)
      = { settings with crossPrefix := options.settings.crossPrefix, mapperCommand := command } := by
  refine Settings.eq_of_value? (fun setting => ?_) rfl ?_
  · rw [Settings.value?_command, Settings.value?_command]
    by_cases hsetting : setting = .crossPrefix
    · subst hsetting
      rfl
    · rw [value?_nested h hnests hparse, if_neg fun hempty => hsetting hempty.1]
      cases setting with
      | crossPrefix => exact absurd rfl hsetting
      | _ => rfl
  · exact (sound_of_parse hparse).suffix.trans (accepted_of_settings? h).2.1.symm

/-- The prefix of a nested mapper is the same just if no other is inherited. -/
theorem crossPrefix_eq_iff (h : start.settings? = some settings)
    (hnests : start.Nests (Invocation.ofUnit settings unit) nested)
    (hparse : parse [] nested.environment = .work options) :
    options.settings.crossPrefix = settings.crossPrefix ↔ start.HandsPrefixOn settings := by
  have hvalue := value?_nested h hnests hparse .crossPrefix
  constructor
  · intro heq hempty value hinherited
    rw [if_pos ⟨rfl, hempty⟩, hinherited, Option.some_or] at hvalue
    have hbytes : Bytes.ofString options.settings.crossPrefix = value := Option.some.inj hvalue
    rw [← hbytes, heq, hempty]
    rfl
  · intro hhands
    by_cases hempty : settings.crossPrefix = ""
    · rw [if_pos ⟨rfl, hempty⟩] at hvalue
      rw [hempty]
      cases hinherited : start.environment.lookup Setting.crossPrefix.variableName with
      | none =>
          rw [hinherited] at hvalue
          exact Bytes.ofString_injective (Option.some.inj hvalue)
      | some value =>
          rw [hinherited, hhands hempty value hinherited] at hvalue
          exact Bytes.ofString_injective (Option.some.inj hvalue)
    · rw [if_neg fun hboth => hempty hboth.2] at hvalue
      exact Bytes.ofString_injective (Option.some.inj hvalue)

/-- A nested mapper reads its variables, if no prefix other than an empty one is inherited. -/
theorem exists_parse_nested (h : start.settings? = some settings)
    (hnests : start.Nests (Invocation.ofUnit settings unit) nested)
    (hhands : start.HandsPrefixOn settings) :
    ∃ read, parse [] nested.environment = .work { settings := read } := by
  refine exists_parse_nil fun setting value hvalue => ?_
  rw [lookup_nested h hnests] at hvalue
  split at hvalue
  · next hempty =>
      obtain ⟨rfl, hempty⟩ := hempty
      exact ⟨"", (hhands hempty value hvalue).symm⟩
  · exact (accepted_of_settings? h).1 setting value hvalue

/-- A nested mapper works with the same settings, if no prefix other than an empty one is inherited. -/
theorem settings?_nested (h : start.settings? = some settings)
    (hnests : start.Nests (Invocation.ofUnit settings unit) nested)
    (hhands : start.HandsPrefixOn settings) :
    nested.settings? = some { settings with mapperCommand := Text.lossy nested.name } := by
  obtain ⟨read, hparse⟩ := exists_parse_nested h hnests hhands
  have heq := eq_of_nests h hnests hparse (Text.lossy nested.name)
  rw [(crossPrefix_eq_iff h hnests hparse).mpr hhands] at heq
  obtain ⟨_, -, -, -, hcheck⟩ := settings?_eq_some_iff.mp h
  refine settings?_eq_some_iff.mpr ⟨_, hnests.alone ▸ hparse, rfl, heq.symm, ?_⟩
  exact Settings.check_command hcheck (Text.lossy_ne_empty hnests.named)

/-- **Nested mappers are alike.**  A mapper that a compiler starts works with the settings of the mapper
    that started the compiler, save that its prefix may be another: it works with the same prefix just if
    that is not empty, or if no other is inherited.  Then it looks for every artifact under the same
    path. -/
theorem nested_alike (h : start.settings? = some settings)
    (hnests : start.Nests (Invocation.ofUnit settings unit) nested) :
    (∀ inner, nested.settings? = some inner →
        inner = { settings with
          crossPrefix := inner.crossPrefix, mapperCommand := Text.lossy nested.name })
      ∧ (nested.settings? = some { settings with mapperCommand := Text.lossy nested.name }
        ↔ start.HandsPrefixOn settings)
      ∧ (start.HandsPrefixOn settings →
        ∀ launcher client name, nested.pathOf? launcher client name = start.pathOf? launcher client name) := by
  refine ⟨fun inner hinner => ?_, ⟨fun hinner => ?_, settings?_nested h hnests⟩,
    fun hhands launcher client name => ?_⟩
  · obtain ⟨options, hparse, -, rfl, -⟩ := settings?_eq_some_iff.mp hinner
    exact eq_of_nests h hnests (hnests.alone ▸ hparse) _
  · obtain ⟨options, hparse, -, heq, -⟩ := settings?_eq_some_iff.mp hinner
    exact (crossPrefix_eq_iff h hnests (hnests.alone ▸ hparse)).mp
      (congrArg Settings.crossPrefix heq).symm
  · rw [Start.pathOf?, Start.pathOf?, settings?_nested h hnests hhands, h]
    rfl

/-- The mapper that a compiler starts by a name, if it hands on all its variables as they are. -/
def Start.nest (start : Start) (invocation : Invocation) (name : Bytes) : Start :=
  { start with name, arguments := [], environment := invocation.bindings ++ start.environment }

theorem nests_nest (start : Start) (invocation : Invocation) {name : Bytes} (h : name ≠ []) :
    start.Nests invocation (start.nest invocation name) where
  named := h
  alone := rfl
  handed := fun setting => by
    rw [Child.lookup_environment]
    exact List.lookup_append

/-- A start by the name `mapper`, with nothing to read and no files. -/
def bareStart (arguments : List String) (environment : List (String × String)) : Start where
  name := Bytes.ofString "mapper"
  arguments := arguments.map Bytes.ofString
  environment := environment.map fun entry => (entry.1, Bytes.ofString entry.2)
  input := []
  files := { entries := [([], .directory ⟨0, 0⟩)], workingDir := [], now := ⟨0, 0⟩ }

theorem settings?_bareStart {arguments : List String} {environment : List (String × String)}
    (options : Options)
    (hparse : parse (bareStart arguments environment).arguments
      (bareStart arguments environment).environment = .work options)
    (hdump : options.dumpBlocks = false) (hcheck : options.settings.check = .ok ()) :
    (bareStart arguments environment).settings?
      = some { options.settings with mapperCommand := Text.lossy (Bytes.ofString "mapper") } := by
  have hcommand : Text.lossy (Bytes.ofString "mapper") ≠ "" := Text.lossy_ne_empty (by decide)
  exact settings?_eq_some_iff.mpr ⟨options, hparse, hdump, rfl, Settings.check_command hcheck hcommand⟩

/-- The command that builds the module `foo`. -/
def fooInvocation (settings : Settings) : Invocation :=
  Invocation.ofUnit settings (SourceUnit.ofName (Bytes.ofString "foo") settings.sourceSuffix)

/-- A mapper for another target than its variables say. -/
def crossStart : Start :=
  bareStart ["-xarm-", "--source-dir", "src"] [("CMI_STD", "c++23"), ("CROSS_COMPILE", "mips-")]

def crossSettings : Settings where
  crossPrefix := "arm-"
  standard := "c++23"
  sourceDir := some (Bytes.ofString "src")
  mapperCommand := Text.lossy (Bytes.ofString "mapper")

/-- A prefix that an option gives is handed on, whatever the variable says. -/
theorem nested_alike_crossStart :
    crossStart.settings? = some crossSettings
      ∧ crossStart.Nests (fooInvocation crossSettings)
        (crossStart.nest (fooInvocation crossSettings) (Bytes.ofString "mapper"))
      ∧ crossStart.HandsPrefixOn crossSettings
      ∧ (crossStart.nest (fooInvocation crossSettings) (Bytes.ofString "mapper")).settings?
        = some crossSettings := by
  have hsettings : crossStart.settings? = some crossSettings :=
    settings?_bareStart
      { settings :=
          { crossPrefix := "arm-", standard := "c++23", sourceDir := some (Bytes.ofString "src") }
        given := [.sourceDir, .crossPrefix] }
      (by decide +kernel) rfl rfl
  have hnests : crossStart.Nests (fooInvocation crossSettings)
      (crossStart.nest (fooInvocation crossSettings) (Bytes.ofString "mapper")) :=
    nests_nest _ _ (by decide)
  have hhands : crossStart.HandsPrefixOn crossSettings := fun hempty => absurd hempty (by decide)
  exact ⟨hsettings, hnests, hhands, (nested_alike hsettings hnests).2.1.mpr hhands⟩

/-- A mapper whose prefix is empty, though its variable says otherwise. -/
def emptyStart : Start := bareStart ["--cross-compile="] [("CROSS_COMPILE", "x-")]

def emptySettings : Settings where
  mapperCommand := Text.lossy (Bytes.ofString "mapper")

/-- **An empty prefix is not handed on**: the nested mapper takes the one that its variable says, and looks
    for the artifacts of another target. -/
theorem not_alike_emptyStart :
    emptyStart.settings? = some emptySettings
      ∧ emptyStart.Nests (fooInvocation emptySettings)
        (emptyStart.nest (fooInvocation emptySettings) (Bytes.ofString "mapper"))
      ∧ (emptyStart.nest (fooInvocation emptySettings) (Bytes.ofString "mapper")).settings?
        = some { emptySettings with crossPrefix := "x-" }
      ∧ (emptyStart.nest (fooInvocation emptySettings) (Bytes.ofString "mapper")).settings?
        ≠ some emptySettings
      ∧ ∀ launcher : Launcher,
          (emptyStart.nest (fooInvocation emptySettings) (Bytes.ofString "mapper")).pathOf? launcher {}
              (Bytes.ofString "foo")
            ≠ emptyStart.pathOf? launcher {} (Bytes.ofString "foo") := by
  have hsettings : emptyStart.settings? = some emptySettings :=
    settings?_bareStart { given := [.crossPrefix] } (by decide +kernel) rfl rfl
  have hnests : emptyStart.Nests (fooInvocation emptySettings)
      (emptyStart.nest (fooInvocation emptySettings) (Bytes.ofString "mapper")) :=
    nests_nest _ _ (by decide)
  have hnested : (emptyStart.nest (fooInvocation emptySettings) (Bytes.ofString "mapper")).settings?
      = some { emptySettings with crossPrefix := "x-" } := by
    have hcheck : ({ crossPrefix := "x-" } : Settings).check = .ok () := rfl
    have hcommand : Text.lossy (Bytes.ofString "mapper") ≠ "" := Text.lossy_ne_empty (by decide)
    have haccepted := Settings.check_command hcheck hcommand
    exact settings?_eq_some_iff.mpr
      ⟨{ settings := { crossPrefix := "x-" } }, by decide +kernel, rfl, rfl, haccepted⟩
  refine ⟨hsettings, hnests, hnested, ?_, ?_⟩
  · rw [hnested]
    intro heq
    exact absurd (congrArg Settings.crossPrefix (Option.some.inj heq)) (by decide)
  · intro launcher
    have hpath : ∀ mapper : Mapper Bytes, mapper.pathOf {} (Bytes.ofString "foo")
        = .ok (Artifact.path (Bytes.ofString "foo") mapper.settings.crossPrefix {}) := fun _ => rfl
    have hpaths : Artifact.path (Bytes.ofString "foo") "x-" {}
        ≠ Artifact.path (Bytes.ofString "foo") "" {} := by
      decide +kernel
    rw [Start.pathOf?, Start.pathOf?, hnested, hsettings, Option.map_some, Option.map_some, hpath, hpath]
    exact fun heq => hpaths (Except.ok.inj (Option.some.inj heq))

end Program

end ModuleMapper
