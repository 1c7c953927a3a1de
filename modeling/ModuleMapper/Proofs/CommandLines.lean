import ModuleMapper.CommandLine
import ModuleMapper.Proofs.Texts

/-!
# Command lines — where settings come from

  A setting has a *value*: what its option or its variable would have to say for it.  An argument keeps
  all values or takes one over (`Progress.leads_step`), and a variable gives the value of a setting that
  no option gave.  So each setting comes from its option, else from its variable, else it is as usual
  (`sound_of_parse`), and a command line is accepted if it is read and its variables can be values
  (`exists_fromVariables`).
-/

namespace ModuleMapper

/-! ## Values -/

/-- What can be the value of a setting: a path that is not empty, or a text. -/
def Setting.Admits : Setting → Bytes → Prop
  | repositoryDir, value => value ≠ []
  | sourceDir, value => value ≠ []
  | crossPrefix, value => ∃ text, Bytes.ofString text = value
  | compiler, value => ∃ text, Bytes.ofString text = value
  | standard, value => ∃ text, Bytes.ofString text = value

theorem Setting.mem_all (setting : Setting) : setting ∈ all := by
  cases setting <;> decide

namespace Settings

/-- The value of a setting, if it has one. -/
def value? (settings : Settings) : Setting → Option Bytes
  | .repositoryDir => some settings.repositoryDir
  | .crossPrefix => some (Bytes.ofString settings.crossPrefix)
  | .compiler => some (Bytes.ofString settings.compiler)
  | .standard => some (Bytes.ofString settings.standard)
  | .sourceDir => settings.sourceDir

/-- All values can be values. -/
def Admitted (settings : Settings) : Prop :=
  ∀ setting value, settings.value? setting = some value → setting.Admits value

/-- What taking over a value does: it becomes the value of the setting, and all else stays. -/
structure Took (settings : Settings) (setting : Setting) (value : Bytes) (after : Settings) : Prop where
  admits : setting.Admits value
  value : ∀ other, after.value? other = if other = setting then some value else settings.value? other
  suffix : after.sourceSuffix = settings.sourceSuffix

variable {settings after : Settings} {setting : Setting} {value : Bytes}

theorem admitted_usual : ({} : Settings).Admitted := by
  intro setting value h
  cases setting with
  | repositoryDir =>
      injection h with h
      subst h
      show Bytes.ofString ".modules-cmi" ≠ []
      decide
  | crossPrefix | compiler | standard => exact ⟨_, Option.some.inj h⟩
  | sourceDir => cases h

/-- The values, and what has no value, tell settings apart. -/
theorem eq_of_value? {other : Settings} (h : ∀ setting, settings.value? setting = other.value? setting)
    (hcommand : settings.mapperCommand = other.mapperCommand)
    (hsuffix : settings.sourceSuffix = other.sourceSuffix) : settings = other := by
  have hrepository := Option.some.inj (h .repositoryDir)
  have hprefix := Bytes.ofString_injective (Option.some.inj (h .crossPrefix))
  have hcompiler := Bytes.ofString_injective (Option.some.inj (h .compiler))
  have hstandard := Bytes.ofString_injective (Option.some.inj (h .standard))
  have hsource : settings.sourceDir = other.sourceDir := h .sourceDir
  cases settings
  cases other
  simp only [mk.injEq]
  exact ⟨hrepository, hprefix, hcompiler, hstandard, hcommand, hsource, hsuffix⟩

theorem took_of_assign? (h : settings.assign? setting value = some after) :
    settings.Took setting value after := by
  cases setting with
  | repositoryDir | sourceDir =>
      simp only [assign?] at h
      split at h
      · cases h
      · next hne =>
          cases h
          exact ⟨hne, fun other => by cases other <;> rfl, rfl⟩
  | crossPrefix | compiler | standard =>
      obtain ⟨text, htext, rfl⟩ := Option.map_eq_some_iff.mp h
      obtain rfl := Bytes.ofString_of_toString? htext
      exact ⟨⟨text, rfl⟩, fun other => by cases other <;> rfl, rfl⟩

/-- A value is refused only if it cannot be one. -/
theorem exists_assign? (settings : Settings) (h : setting.Admits value) :
    ∃ after, settings.assign? setting value = some after := by
  cases setting with
  | repositoryDir | sourceDir => exact ⟨_, if_neg h⟩
  | crossPrefix | compiler | standard =>
      obtain ⟨text, rfl⟩ := h
      exact ⟨_, by rw [assign?, Bytes.toString?_ofString, Option.map_some]⟩

theorem Took.admitted (h : settings.Took setting value after) (hadmitted : settings.Admitted) :
    after.Admitted := by
  intro other content hcontent
  rw [h.value] at hcontent
  split at hcontent
  · next heq =>
      injection hcontent with hcontent
      exact heq ▸ hcontent ▸ h.admits
  · exact hadmitted other content hcontent

end Settings

namespace CommandLine

/-! ## Arguments -/

/-- What an argument can lead to: the settings are kept, or one value is taken over, or reading stops,
    and then there is nothing to work on. -/
inductive Progress.Leads (p : Progress) : Step → Prop
  | keeps {after : Progress} (hsettings : after.options.settings = p.options.settings)
      (hgiven : after.options.given = p.options.given) : p.Leads (.more after)
  | takes {after : Progress} (setting : Setting) (value : Bytes)
      (hsettings : p.options.settings.assign? setting value = some after.options.settings)
      (hgiven : after.options.given = setting :: p.options.given) : p.Leads (.more after)
  | stops {order : Order} (h : ∀ options, order ≠ .work options) : p.Leads (.stop order)

/-- Options that tell where their settings come from.  While arguments are read, no variable has been
    looked at. -/
structure Options.Sound (environment : List (String × Bytes)) (options : Options) : Prop where
  admitted : options.settings.Admitted
  /-- What an option gave has a value. -/
  given : ∀ setting ∈ options.given, options.settings.value? setting ≠ none
  /-- What no option gave comes from its variable, or is as usual. -/
  fallback : ∀ setting, setting ∉ options.given →
    options.settings.value? setting
      = (environment.lookup setting.variableName).or (({} : Settings).value? setting)
  suffix : options.settings.sourceSuffix = ({} : Settings).sourceSuffix

variable {p after : Progress} {options : Options} {environment : List (String × Bytes)}
  {arguments : List Bytes}

theorem Progress.leads_accept (p : Progress) (setting : Setting) (value : Bytes) :
    p.Leads (p.accept setting value) := by
  unfold accept
  split
  · exact .stops fun _ => Order.noConfusion
  · split
    · exact .stops fun _ => Order.noConfusion
    · next hsettings => exact .takes setting value hsettings rfl

theorem Progress.leads_takeNamed (p : Progress) (name : Bytes) (value : Option Bytes) :
    p.Leads (p.takeNamed name value) := by
  unfold takeNamed
  split
  · exact p.leads_accept _ _
  · exact .keeps rfl rfl
  · exact .stops fun _ => Order.noConfusion
  · split
    · split
      · exact .stops fun _ => Order.noConfusion
      · exact .keeps rfl rfl
    · split
      · exact .stops fun _ => Order.noConfusion
      · split
        · exact .stops fun _ => Order.noConfusion
        · exact .stops fun _ => Order.noConfusion

theorem Progress.leads_takeLetter (p : Progress) (letter : UInt8) (rest : Bytes) :
    p.Leads (p.takeLetter letter rest) := by
  simp only [takeLetter]
  split
  · exact .keeps rfl rfl
  · exact p.leads_accept _ _
  · split
    · exact .stops fun _ => Order.noConfusion
    · split
      · exact .stops fun _ => Order.noConfusion
      · exact .stops fun _ => Order.noConfusion

theorem Progress.leads_step (p : Progress) (argument : Bytes) : p.Leads (p.step argument) := by
  unfold step
  split
  · split
    · exact .stops fun _ => Order.noConfusion
    · exact p.leads_accept _ _
  · split
    · exact .stops fun _ => Order.noConfusion
    · split
      · exact .stops fun _ => Order.noConfusion
      · split
        · split
          · exact .keeps rfl rfl
          · exact p.leads_takeNamed _ _
        · exact p.leads_takeLetter _ _

/-- Where reading stops there is nothing to work on. -/
theorem Progress.ne_work_of_stop {argument : Bytes} {order : Order} (h : p.step argument = .stop order)
    (options : Options) : order ≠ .work options := by
  have hleads := p.leads_step argument
  rw [h] at hleads
  cases hleads with
  | stops hstops => exact hstops options

theorem sound_start : ({} : Options).Sound [] where
  admitted := Settings.admitted_usual
  given := fun _ hmem => absurd hmem List.not_mem_nil
  fallback := fun _ _ => rfl
  suffix := rfl

/-- An argument that is read keeps options sound. -/
theorem Options.Sound.step {argument : Bytes} (h : p.options.Sound [])
    (hstep : p.step argument = .more after) : after.options.Sound [] := by
  have hleads := p.leads_step argument
  rw [hstep] at hleads
  cases hleads with
  | keeps hsettings hgiven =>
      exact ⟨hsettings ▸ h.admitted, hgiven ▸ hsettings ▸ h.given, hgiven ▸ hsettings ▸ h.fallback,
        hsettings ▸ h.suffix⟩
  | takes setting value hsettings hgiven =>
      have htook := Settings.took_of_assign? hsettings
      refine ⟨htook.admitted h.admitted, ?_, ?_, htook.suffix.trans h.suffix⟩
      · intro other hmem
        rw [htook.value]
        split
        · exact Option.some_ne_none value
        · next hne =>
            rw [hgiven, List.mem_cons] at hmem
            exact h.given other (hmem.resolve_left hne)
      · intro other hmem
        rw [hgiven, List.mem_cons, not_or] at hmem
        rw [htook.value, if_neg hmem.1]
        exact h.fallback other hmem.2

/-- Reading keeps options sound.  Induction on the arguments, from whatever was read before. -/
theorem sound_of_read (hsound : p.options.Sound []) (h : read p arguments = .work options) :
    options.Sound [] := by
  induction arguments generalizing p with
  | nil =>
      rw [read] at h
      split at h
      · cases h
      · injection h with h
        exact h ▸ hsound
  | cons argument others ih =>
      rw [read] at h
      split at h
      · next hstep => exact ih (hsound.step hstep) h
      · next hstep => exact absurd h (p.ne_work_of_stop hstep options)

/-! ## Variables -/

/-- Take over the variable of one setting, unless an option gave it. -/
def takeVariable (environment : List (String × Bytes)) (given : List Setting) (settings : Settings)
    (setting : Setting) : Option Settings :=
  if given.contains setting then some settings
  else
    match environment.lookup setting.variableName with
    | some value => settings.assign? setting value
    | none => some settings

theorem fromVariables_eq (environment : List (String × Bytes)) (options : Options) :
    fromVariables environment options
      = Setting.all.foldlM (takeVariable environment options.given) options.settings := rfl

/-- What taking over the variables of some settings does: each comes from its variable, if there is one
    and no option gave it, and all else stays. -/
structure Filled (environment : List (String × Bytes)) (given looked : List Setting)
    (settings after : Settings) : Prop where
  admitted : settings.Admitted → after.Admitted
  value : ∀ setting, after.value? setting
    = if setting ∈ looked ∧ setting ∉ given then
        (environment.lookup setting.variableName).or (settings.value? setting)
      else settings.value? setting
  suffix : after.sourceSuffix = settings.sourceSuffix

variable {given looked : List Setting} {settings result : Settings} {setting : Setting}

theorem filled_of_takeVariable
    (h : takeVariable environment given settings setting = some result) :
    Filled environment given [setting] settings result := by
  unfold takeVariable at h
  split at h
  · next hgiven =>
      cases h
      refine ⟨id, fun other => (if_neg ?_).symm, rfl⟩
      rintro ⟨hmem, hnot⟩
      rw [List.mem_singleton] at hmem
      exact hnot (hmem ▸ List.contains_iff_mem.mp hgiven)
  · next hgiven =>
      rw [List.contains_iff_mem] at hgiven
      split at h
      · next value hvalue =>
          have htook := Settings.took_of_assign? h
          refine ⟨htook.admitted, fun other => ?_, htook.suffix⟩
          rw [htook.value]
          by_cases heq : other = setting
          · rw [if_pos heq, if_pos ⟨List.mem_singleton.mpr heq, heq ▸ hgiven⟩, heq, hvalue]
            rfl
          · rw [if_neg heq, if_neg fun hmem => heq (List.mem_singleton.mp hmem.1)]
      · next hvalue =>
          cases h
          refine ⟨id, fun other => ?_, rfl⟩
          split
          · next hmem =>
              rw [List.mem_singleton.mp hmem.1, hvalue]
              rfl
          · rfl

theorem Filled.trans {first second : List Setting} {middle : Settings}
    (h : Filled environment given first settings middle)
    (h' : Filled environment given second middle result) :
    Filled environment given (first ++ second) settings result := by
  refine ⟨fun hadmitted => h'.admitted (h.admitted hadmitted), fun setting => ?_,
    h'.suffix.trans h.suffix⟩
  rw [h'.value, h.value]
  by_cases hgiven : setting ∈ given
  · simp only [hgiven, not_true_eq_false, and_false, if_false]
  · by_cases hfirst : setting ∈ first
    · by_cases hsecond : setting ∈ second
      · simp only [hgiven, hfirst, hsecond, List.mem_append, or_self, not_false_eq_true, and_self,
          if_true, ← Option.or_assoc, Option.or_self]
      · simp only [hgiven, hfirst, hsecond, List.mem_append, or_false, not_false_eq_true, and_true,
          if_true, if_false]
    · by_cases hsecond : setting ∈ second
      · simp only [hgiven, hfirst, hsecond, List.mem_append, or_true, not_false_eq_true, and_true,
          if_true, if_false]
      · simp only [hgiven, hfirst, hsecond, List.mem_append, or_self, false_and, if_false]

/-- **Variables are taken over for their own settings.**  Induction on the settings whose variables are
    looked at. -/
theorem filled_of_foldlM (h : looked.foldlM (takeVariable environment given) settings = some result) :
    Filled environment given looked settings result := by
  induction looked generalizing settings with
  | nil =>
      cases h
      exact ⟨id, fun _ => (if_neg fun hmem => absurd hmem.1 List.not_mem_nil).symm, rfl⟩
  | cons setting others ih =>
      rw [List.foldlM_cons, Option.bind_eq_bind, Option.bind_eq_some_iff] at h
      obtain ⟨middle, hmiddle, h⟩ := h
      exact (filled_of_takeVariable hmiddle).trans (ih h)

/-- Variables that can be values are all taken over.  Induction on the settings whose variables are looked
    at. -/
theorem exists_foldlM (h : ∀ setting, setting ∉ given → ∀ value,
      environment.lookup setting.variableName = some value → setting.Admits value)
    (looked : List Setting) (settings : Settings) :
    ∃ result, looked.foldlM (takeVariable environment given) settings = some result := by
  induction looked generalizing settings with
  | nil => exact ⟨settings, rfl⟩
  | cons setting others ih =>
      have hfirst : ∃ middle, takeVariable environment given settings setting = some middle := by
        unfold takeVariable
        split
        · exact ⟨settings, rfl⟩
        · next hgiven =>
            rw [List.contains_iff_mem] at hgiven
            split
            · next value hvalue => exact settings.exists_assign? (h setting hgiven value hvalue)
            · exact ⟨settings, rfl⟩
      obtain ⟨middle, hmiddle⟩ := hfirst
      obtain ⟨result, hresult⟩ := ih middle
      refine ⟨result, ?_⟩
      rw [List.foldlM_cons, hmiddle]
      exact hresult

/-! ## Command lines -/

/-- Options with what the variables give in addition are sound. -/
theorem sound_of_fromVariables (hsound : options.Sound [])
    (h : fromVariables environment options = some settings) :
    ({ options with settings } : Options).Sound environment := by
  rw [fromVariables_eq] at h
  have hfilled := filled_of_foldlM h
  refine ⟨hfilled.admitted hsound.admitted, ?_, ?_, hfilled.suffix.trans hsound.suffix⟩
  · intro setting hgiven
    show settings.value? setting ≠ none
    rw [hfilled.value, if_neg fun hmem => hmem.2 hgiven]
    exact hsound.given setting hgiven
  · intro setting hgiven
    show settings.value? setting = _
    rw [hfilled.value, if_pos ⟨setting.mem_all, hgiven⟩, hsound.fallback setting hgiven]
    rfl

/-- **Where settings come from**: from options, else from variables, else they are as usual. -/
theorem sound_of_parse (h : parse arguments environment = .work options) :
    options.Sound environment := by
  unfold parse at h
  split at h
  · next readOptions hread =>
      split at h
      · next settings hsettings =>
          injection h with h
          exact h ▸ sound_of_fromVariables (sound_of_read sound_start hread) hsettings
      · cases h
  · next hother => exact absurd h (hother options)

/-- Without arguments no option gives anything. -/
theorem given_of_parse_nil (h : parse [] environment = .work options) : options.given = [] := by
  have hread : read {} [] = .work {} := rfl
  simp only [parse, hread] at h
  split at h
  · injection h with h
    exact h ▸ rfl
  · cases h

/-- Without arguments each setting comes from its variable, or is as usual. -/
theorem value?_of_parse_nil (h : parse [] environment = .work options) (setting : Setting) :
    options.settings.value? setting
      = (environment.lookup setting.variableName).or (({} : Settings).value? setting) := by
  refine (sound_of_parse h).fallback setting ?_
  rw [given_of_parse_nil h]
  exact List.not_mem_nil

/-- Variables that can be values are accepted where there are no arguments. -/
theorem exists_parse_nil (h : ∀ (setting : Setting) value,
      environment.lookup setting.variableName = some value → setting.Admits value) :
    ∃ settings, parse [] environment = .work { settings } := by
  obtain ⟨settings, hsettings⟩ :=
    exists_foldlM (fun setting (_ : setting ∉ ({} : Options).given) => h setting) Setting.all {}
  refine ⟨settings, ?_⟩
  have hread : read {} [] = .work {} := rfl
  rw [← fromVariables_eq environment {}] at hsettings
  simp only [parse, hread, hsettings]

end CommandLine

end ModuleMapper
