import ModuleMapper.Bytes
import ModuleMapper.Text.Hidden

/-!
# Quoted text — how a message shows what it was given

  Between double quotes a text shows its characters, with escapes for the quote, the backslash, the
  four controls that have a letter, and every other hidden character by its code point in hexadecimal.
  Bytes that are no text show printable ASCII and spell out all other bytes with two digits.
-/

namespace ModuleMapper.Text

/-- A hexadecimal digit, in lower case. -/
def hexDigit (n : Nat) : Char := Char.ofNat (if n < 10 then 0x30 + n else 0x57 + n)

/-- A number in hexadecimal, without leading zeros. -/
def hexDigits (n : Nat) : List Char :=
  if n < 16 then [hexDigit n] else hexDigits (n / 16) ++ [hexDigit (n % 16)]
termination_by n
decreasing_by omega

/-- One character inside a quoted text. -/
def escapeChar (c : Char) : List Char :=
  if c = '"' ∨ c = '\\' then ['\\', c]
  else if c = '\x00' then ['\\', '0']
  else if c = '\t' then ['\\', 't']
  else if c = '\r' then ['\\', 'r']
  else if c = '\n' then ['\\', 'n']
  else if hidden.contains c then ['\\', 'u', '{'] ++ hexDigits c.toNat ++ ['}']
  else [c]

/-- One byte inside quoted bytes. -/
def escapeByte (b : UInt8) : List Char :=
  if b = Byte.doubleQuote ∨ b = Byte.quote ∨ b = Byte.backslash then ['\\', Char.ofNat b.toNat]
  else if b = Byte.tab then ['\\', 't']
  else if b = Byte.carriageReturn then ['\\', 'r']
  else if b = Byte.newline then ['\\', 'n']
  else if 0x20 ≤ b ∧ b ≤ 0x7E then [Char.ofNat b.toNat]
  else ['\\', 'x', hexDigit (b.toNat / 16), hexDigit (b.toNat % 16)]

/-- The characters of a quoted text. -/
def quotedChars (text : List Char) : List Char := '"' :: (text.flatMap escapeChar ++ ['"'])

/-- The characters of quoted bytes. -/
def quotedByteChars (bytes : Bytes) : List Char := '"' :: (bytes.flatMap escapeByte ++ ['"'])

/-- A text between double quotes. -/
def quote (text : String) : String := String.ofList (quotedChars text.toList)

/-- A byte string between double quotes: as text when it is text. -/
def quoteBytes (bytes : Bytes) : String :=
  match bytes.toString? with
  | some text => quote text
  | none => String.ofList (quotedByteChars bytes)

end ModuleMapper.Text
