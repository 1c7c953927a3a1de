import ModuleMapper.Path
import ModuleMapper.SystemError
import ModuleMapper.Text.Lossy
import ModuleMapper.Text.Quoted

/-!
# Failures — what can go wrong, and how it reads

  Each constructor is one cause. `message` is its text for the other side. A failure of the wire
  itself ends the session; every other one is the answer to the message that met it.
-/

namespace ModuleMapper

/-- Why something could not be done. -/
inductive Failure where
  /-- Reading or writing a stream failed. -/
  | stream (cause : SystemError)
  /-- Bytes that are no token. -/
  | malformed (text : String)
  /-- The stream ended inside a block. -/
  | truncated
  /-- A message without words. -/
  | emptyMessage
  /-- The working directory is not known. -/
  | repositoryPath (cause : SystemError)
  /-- A directory could not be created. -/
  | repositoryCreate (cause : SystemError)
  /-- An artifact could not be examined. -/
  | artifactStat (path : Path) (cause : SystemError)
  /-- A source could not be examined. -/
  | sourceStat (path : Path) (cause : SystemError)
  /-- A module name that names no file. -/
  | moduleName (text : String)
  /-- The compiler did not succeed. -/
  | build (target reason : String)
  /-- Settings that make no command. -/
  | settings (text : String)
  deriving Repr, DecidableEq

namespace Failure

/-- How a failure reads. -/
def message : Failure → String
  | stream cause => "IO error: " ++ cause.message
  | malformed text => "syntax error at " ++ Text.quote text
  | truncated => "unexpected end of stream inside an incomplete block"
  | emptyMessage => "invalid empty message from client"
  | repositoryPath cause => "failed to build repository path: " ++ cause.message
  | repositoryCreate cause => "failed to create repository dir: " ++ cause.message
  | artifactStat path cause =>
    "invalid existing CMI file " ++ Text.lossy path ++ ": " ++ cause.message
  | sourceStat path cause => "invalid source file " ++ Text.lossy path ++ ": " ++ cause.message
  | moduleName text => "invalid module name " ++ Text.quote text ++ ": contains a NUL byte"
  | build target reason => "failed to build " ++ target ++ ": " ++ reason
  | settings text => "Configuration error: " ++ text

/-- The error from below that a failure passes on. -/
def cause? : Failure → Option SystemError
  | stream cause | repositoryPath cause | repositoryCreate cause => some cause
  | artifactStat _ cause | sourceStat _ cause => some cause
  | malformed _ | truncated | emptyMessage | moduleName _ | build .. | settings _ => none

/-- Does the failure end the session? Only trouble on the wire does. -/
def endsSession : Failure → Bool
  | stream _ | malformed _ | truncated | emptyMessage => true
  | repositoryPath _ | repositoryCreate _ | artifactStat .. | sourceStat .. => false
  | moduleName _ | build .. | settings _ => false

end Failure

end ModuleMapper
