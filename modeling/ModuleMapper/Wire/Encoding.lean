import ModuleMapper.Failure
import ModuleMapper.Wire.Token

/-!
# Encoding — words, messages and blocks as bytes

  A word is written bare when it can be, else between quotes with four escapes. A block is one line
  for each message; every line but the last ends in a semicolon of its own.
-/

namespace ModuleMapper

/-- One byte inside a quoted word. -/
def Byte.escape (b : UInt8) : Bytes :=
  if b = backslash then [backslash, backslash]
  else if b = quote then [backslash, quote]
  else if b = newline then [backslash, letterN]
  else if b = tab then [backslash, letterT]
  else [b]

namespace Word

/-- A word as it is written. -/
def encode (word : Word) : Bytes :=
  if word.isBare then word
  else Byte.quote :: (word.flatMap Byte.escape ++ [Byte.quote])

/-- A word written behind what a buffer holds, byte after byte. -/
def encodeOnto (word : Word) (buffer : Bytes) : Bytes :=
  if word.isBare then buffer ++ word
  else word.foldl (fun written b => written ++ Byte.escape b) (buffer ++ [Byte.quote])
    ++ [Byte.quote]

/-- The word that a byte string writes: one word token and nothing behind it. -/
def decode (written : Bytes) : Except Failure Word :=
  match Wire.scan written with
  | .token (.word word) [] => .ok word
  | .malformed line => .error (.malformed (Text.lossy line))
  | _ => .error (.malformed (Text.lossy written))

end Word

namespace Message

/-- The words of a message, with a space between them. -/
def encode : Message → Bytes
  | [] => []
  | [word] => word.encode
  | word :: others => word.encode ++ Byte.space :: encode others

end Message

namespace Block

/-- The lines of a block. -/
def encode : Block → Bytes
  | [] => []
  | [message] => message.encode ++ [Byte.newline]
  | message :: others =>
    message.encode ++ [Byte.space, Byte.semicolon, Byte.newline] ++ encode others

end Block

end ModuleMapper
