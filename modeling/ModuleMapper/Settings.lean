import ModuleMapper.Failure

/-!
# Settings — what one mapper is told at its start

  Where artifacts lie, which compiler builds them and how, and where sources are. Settings that could
  not make a command are refused: an empty program, standard or mapper, or a prefix with white space.
-/

namespace ModuleMapper

/-- The settings that a variable of the environment can give. -/
inductive Setting where
  | repositoryDir
  | crossPrefix
  | compiler
  | standard
  | sourceDir
  deriving Repr, DecidableEq

namespace Setting

/-- The variable that gives a setting. -/
def variableName : Setting → String
  | repositoryDir => "CMI_REPO_DIR"
  | crossPrefix => "CROSS_COMPILE"
  | compiler => "CMI_COMPILER"
  | standard => "CMI_STD"
  | sourceDir => "CMI_SOURCE_DIR"

/-- The settings, in the order in which their variables are looked at. -/
def all : List Setting := [repositoryDir, crossPrefix, compiler, standard, sourceDir]

end Setting

/-- The settings of one mapper. -/
structure Settings where
  /-- The directory of the artifacts. -/
  repositoryDir : Path := Bytes.ofString ".modules-cmi"
  /-- What selects a cross compiler: it is put in front of the compiler's name. -/
  crossPrefix : String := ""
  compiler : String := "g++"
  /-- The language standard. -/
  standard : String := "c++20"
  /-- The program that the compiler starts as its own mapper. -/
  mapperCommand : String := "gcc-module-cmi-builder"
  /-- The directory that relative sources are taken from; the working directory if there is none. -/
  sourceDir : Option Path := none
  /-- What is put behind a module's name to make its source. -/
  sourceSuffix : String := ".cpp"
  deriving Repr, DecidableEq

namespace Settings

/-- The program that compiles. -/
def executable (settings : Settings) : String := settings.crossPrefix ++ settings.compiler

/-- Refuse settings that make no command. -/
def check (settings : Settings) : Except Failure Unit :=
  if settings.compiler = "" then .error (.settings "compiler executable is empty")
  else if settings.standard = "" then .error (.settings "language standard is empty")
  else if settings.mapperCommand = "" then .error (.settings "mapper command is empty")
  else if settings.crossPrefix.toList.any Text.whiteSpace.contains then
    .error (.settings
      ("cross-compile prefix " ++ Text.quote settings.crossPrefix ++ " contains whitespace"))
  else .ok ()

/-- Take over a value that is given from outside. A path must not be empty, and all other settings are
    text. -/
def assign? (settings : Settings) (setting : Setting) (value : Bytes) : Option Settings :=
  match setting with
  | .repositoryDir => if value = [] then none else some { settings with repositoryDir := value }
  | .sourceDir => if value = [] then none else some { settings with sourceDir := some value }
  | .crossPrefix => value.toString?.map fun text => { settings with crossPrefix := text }
  | .compiler => value.toString?.map fun text => { settings with compiler := text }
  | .standard => value.toString?.map fun text => { settings with standard := text }

end Settings

end ModuleMapper
