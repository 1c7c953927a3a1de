import ModuleMapper.Path
import ModuleMapper.Wire.Block

/-!
# Responses — what the compiler is told

  A response is one message: the acknowledgment of a handshake, a path, or why there is none.
-/

namespace ModuleMapper

/-- The answer to one request. -/
inductive Response where
  | hello (version : UInt32) (builder : String) (flags : UInt32)
  | pathName (path : Path)
  | error (text : String)
  deriving Repr, DecidableEq

namespace Response

/-- The acknowledgment of every handshake: protocol version 1, no flags. -/
def acknowledgment : Response := .hello 1 "gcc-module-cmi-builder" 0

/-- Does the response say that something could not be done? -/
def isError : Response → Bool
  | error _ => true
  | hello .. | pathName _ => false

/-- A response as a message. -/
def toMessage : Response → Message
  | hello version builder flags =>
    [Bytes.ofString "HELLO", Bytes.ofString (toString version.toNat), Bytes.ofString builder,
     Bytes.ofString (toString flags.toNat)]
  | pathName path => [Bytes.ofString "PATHNAME", path]
  | error text => [Bytes.ofString "ERROR", Bytes.ofString text]

end Response

end ModuleMapper
