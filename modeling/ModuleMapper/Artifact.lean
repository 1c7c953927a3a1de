import ModuleMapper.Digest
import ModuleMapper.Failure
import ModuleMapper.Path
import ModuleMapper.Wire.Block

/-!
# Artifacts — where the interface of a module lies

  The name of an artifact is made of a digest and of what the compiler said of itself. The digest is
  that of the module's name, followed by a NUL byte and the cross-compile prefix if there is one; a
  module's name must hold no NUL, so that name and prefix can be told apart.

  With a build identity the name is a file of its own in the repository. Without one the file lies two
  directories deep, under the first two pairs of digits.
-/

namespace ModuleMapper

/-- What a compiler says of itself in the handshake. -/
structure Client where
  compiler : Word := []
  /-- The build identity; often empty. -/
  build : Word := []
  deriving Repr, DecidableEq

namespace Artifact

/-- Refuse the names that no file can have. -/
def checkName (name : Word) : Except Failure Unit :=
  if name.contains Byte.nul then .error (.moduleName (Text.lossy name)) else .ok ()

/-- What is digested: the name, and the prefix if there is one. -/
def digestInput (name : Word) (crossPrefix : String) : Bytes :=
  if crossPrefix = "" then name else name ++ Byte.nul :: Bytes.ofString crossPrefix

/-- The digest of a module, in hexadecimal. -/
def digest (name : Word) (crossPrefix : String) : Bytes :=
  Digest.hex (Digest.sha256 (digestInput name crossPrefix))

/-- A digest with the identities of a client. -/
def keyOf (digest : Bytes) (client : Client) : Word :=
  digest ++ (if client.build = [] then [] else Byte.dash :: client.build)
    ++ Byte.dash :: client.compiler

/-- The key of a module. -/
def key (name : Word) (crossPrefix : String) (client : Client) : Word :=
  keyOf (digest name crossPrefix) client

/-- The path of a module's artifact inside the repository. -/
def path (name : Word) (crossPrefix : String) (client : Client) : Path :=
  let digits := digest name crossPrefix
  if client.build = [] then
    Path.join (Path.join (digits.take 2) ((digits.drop 2).take 2))
      (keyOf digits client ++ Bytes.ofString ".cmi")
  else keyOf digits client

end Artifact

end ModuleMapper
