import ModuleMapper.Settings

/-!
# Command lines — settings from arguments and variables

  Arguments are read from left to right. Each either completes an option, or starts one, or stops the
  reading: the first that asks for the version or for help, or that is wrong, decides.

  A setting comes from its option, else from its variable, else it has its usual value. An option is
  given at most once. Its value stands behind an equals sign, or right behind the letter, or is the
  next argument; that one must not look like an option.
-/

namespace ModuleMapper.CommandLine

/-- What the arguments say so far. -/
structure Options where
  settings : Settings := {}
  /-- The settings that options have given. -/
  given : List Setting := []
  dumpBlocks : Bool := false
  deriving Repr, DecidableEq

/-- What the program is asked to do. -/
inductive Order where
  | work (options : Options)
  | showVersion
  | showHelp
  /-- The arguments are wrong. -/
  | refuse
  deriving Repr, DecidableEq

/-- Arguments that are being read. -/
structure Progress where
  options : Options := {}
  /-- The option whose value is the next argument. -/
  waiting : Option Setting := none
  /-- Has an argument said that no options follow? -/
  closed : Bool := false
  deriving Repr, DecidableEq

/-- What one argument leads to. -/
inductive Step where
  | more (progress : Progress)
  | stop (order : Order)
  deriving Repr, DecidableEq

/-- The letter of a setting's option. -/
def letter? : Setting → Option Char
  | .repositoryDir => some 'r'
  | .crossPrefix => some 'x'
  | .compiler => some 'c'
  | .standard => none
  | .sourceDir => some 's'

/-- The name of a setting's option. -/
def optionName : Setting → String
  | .repositoryDir => "repo-dir"
  | .crossPrefix => "cross-compile"
  | .compiler => "compiler"
  | .standard => "std"
  | .sourceDir => "source-dir"

/-- Take the value of an option. -/
def Progress.accept (p : Progress) (setting : Setting) (value : Bytes) : Step :=
  if p.options.given.contains setting then .stop .refuse
  else
    match p.options.settings.assign? setting value with
    | none => .stop .refuse
    | some settings =>
      .more { p with
        waiting := none
        options := { p.options with settings, given := setting :: p.options.given } }

/-- Take an option by its name, with the value behind the equals sign if there is one. -/
def Progress.takeNamed (p : Progress) (name : Bytes) (value : Option Bytes) : Step :=
  match Setting.all.find? fun setting => name == Bytes.ofString (optionName setting), value with
  | some setting, some value => p.accept setting value
  | some setting, none => .more { p with waiting := some setting }
  | none, some _ => .stop .refuse
  | none, none =>
    if name = Bytes.ofString "dump-blocks" then
      if p.options.dumpBlocks then .stop .refuse
      else .more { p with options := { p.options with dumpBlocks := true } }
    else if name = Bytes.ofString "version" then .stop .showVersion
    else if name = Bytes.ofString "help" then .stop .showHelp
    else .stop .refuse

/-- Take an option by its letter, with what stands behind the letter. -/
def Progress.takeLetter (p : Progress) (letter : UInt8) (rest : Bytes) : Step :=
  let setting? := Setting.all.find? fun setting =>
    (letter? setting).any fun char => letter == char.toUInt8
  match setting?, rest with
  | some setting, [] => .more { p with waiting := some setting }
  | some setting, b :: value =>
    p.accept setting (if b = Byte.equals then value else b :: value)
  | none, _ =>
    if letter = 'V'.toUInt8 then .stop .showVersion
    else if letter = 'h'.toUInt8 then .stop .showHelp
    else .stop .refuse

/-- Split at the first equals sign. -/
def splitValue (bytes : Bytes) : Bytes × Option Bytes :=
  match bytes.dropWhile (· ≠ Byte.equals) with
  | [] => (bytes, none)
  | _ :: value => (bytes.takeWhile (· ≠ Byte.equals), some value)

/-- Does an argument look like an option? A single dash does not. -/
def looksLikeOption (argument : Bytes) : Bool :=
  argument.head? == some Byte.dash && argument != [Byte.dash]

/-- Read one argument. -/
def Progress.step (p : Progress) (argument : Bytes) : Step :=
  match p.waiting with
  | some setting =>
    if looksLikeOption argument then .stop .refuse else p.accept setting argument
  | none =>
    if p.closed || !looksLikeOption argument then .stop .refuse
    else
      match argument.tail with
      | [] => .stop .refuse
      | b :: rest =>
        if b = Byte.dash then
          if rest = [] then .more { p with closed := true }
          else
            let (name, value) := splitValue rest
            p.takeNamed name value
        else p.takeLetter b rest

/-- Read arguments. -/
def read (p : Progress) : List Bytes → Order
  | [] => if p.waiting.isSome then .refuse else .work p.options
  | argument :: others =>
    match p.step argument with
    | .more p => read p others
    | .stop order => order

/-- Take over the variables of the settings that no option gave. -/
def fromVariables (environment : List (String × Bytes)) (options : Options) : Option Settings :=
  Setting.all.foldlM (fun settings setting =>
    if options.given.contains setting then some settings
    else
      match environment.lookup setting.variableName with
      | some value => settings.assign? setting value
      | none => some settings) options.settings

/-- Read a command line: arguments first, then variables. -/
def parse (arguments : List Bytes) (environment : List (String × Bytes)) : Order :=
  match read {} arguments with
  | .work options =>
    match fromVariables environment options with
    | some settings => .work { options with settings }
    | none => .refuse
  | order => order

end ModuleMapper.CommandLine
