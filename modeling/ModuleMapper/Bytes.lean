/-!
# Bytes — what words, paths and file contents are made of

  A byte string is a list of bytes. Text enters it by its UTF-8 form (`Bytes.ofString`) and leaves
  it when the bytes are valid UTF-8 as a whole (`Bytes.toString?`). The bytes that the wire format
  and the path rules name are constants of `Byte`.
-/

namespace ModuleMapper

/-- A byte string. -/
abbrev Bytes := List UInt8

namespace Byte

/-- The byte that no file name, path or process argument may hold. -/
abbrev nul : UInt8 := 0x00
abbrev alert : UInt8 := 0x07
abbrev backspace : UInt8 := 0x08
abbrev tab : UInt8 := 0x09
abbrev newline : UInt8 := 0x0A
abbrev verticalTab : UInt8 := 0x0B
abbrev formFeed : UInt8 := 0x0C
abbrev carriageReturn : UInt8 := 0x0D
abbrev escapeCode : UInt8 := 0x1B
abbrev space : UInt8 := 0x20
abbrev exclamation : UInt8 := 0x21
abbrev doubleQuote : UInt8 := 0x22
abbrev hash : UInt8 := 0x23
abbrev dollar : UInt8 := 0x24
abbrev percent : UInt8 := 0x25
abbrev ampersand : UInt8 := 0x26
abbrev quote : UInt8 := 0x27
abbrev leftParenthesis : UInt8 := 0x28
abbrev star : UInt8 := 0x2A
abbrev plus : UInt8 := 0x2B
abbrev comma : UInt8 := 0x2C
abbrev dash : UInt8 := 0x2D
abbrev dot : UInt8 := 0x2E
abbrev slash : UInt8 := 0x2F
abbrev digitZero : UInt8 := 0x30
abbrev colon : UInt8 := 0x3A
abbrev semicolon : UInt8 := 0x3B
abbrev less : UInt8 := 0x3C
abbrev equals : UInt8 := 0x3D
abbrev greater : UInt8 := 0x3E
abbrev question : UInt8 := 0x3F
abbrev commercialAt : UInt8 := 0x40
abbrev leftBracket : UInt8 := 0x5B
abbrev backslash : UInt8 := 0x5C
abbrev rightBracket : UInt8 := 0x5D
abbrev caret : UInt8 := 0x5E
abbrev underscore : UInt8 := 0x5F
abbrev backquote : UInt8 := 0x60
abbrev letterN : UInt8 := 0x6E
abbrev letterT : UInt8 := 0x74
abbrev leftBrace : UInt8 := 0x7B
abbrev rightBrace : UInt8 := 0x7D
abbrev tilde : UInt8 := 0x7E
abbrev delete : UInt8 := 0x7F

/-- The digits of ASCII. -/
def isDigit (b : UInt8) : Bool := 0x30 ≤ b && b ≤ 0x39

/-- The digits of numbers to the base 8. -/
def isOctal (b : UInt8) : Bool := 0x30 ≤ b && b ≤ 0x37

/-- A letter of ASCII in upper case; any other byte is kept. -/
def toUpper (b : UInt8) : UInt8 := if 0x61 ≤ b && b ≤ 0x7A then b - 0x20 else b

/-- The letters and digits of ASCII. -/
def isAlphanumeric (b : UInt8) : Bool :=
  (0x30 ≤ b && b ≤ 0x39) || (0x41 ≤ b && b ≤ 0x5A) || (0x61 ≤ b && b ≤ 0x7A)

/-- A space or a tab: what separates tokens. -/
def isBlank (b : UInt8) : Bool := b == space || b == tab

/-- The character whose code point the byte is. -/
def char (b : UInt8) : Char := Char.ofNat b.toNat

/-- Is the byte one of the given characters? -/
def isOneOf (b : UInt8) (chars : String) : Bool := chars.toList.contains (char b)

end Byte

namespace Bytes

/-- The UTF-8 form of a text. -/
def ofString (text : String) : Bytes := text.toUTF8.data.toList

/-- Where bytes are wanted, a text stands for its UTF-8 form. -/
scoped instance textAsBytes : Coe String Bytes := ⟨ofString⟩

/-- The text whose UTF-8 form the bytes are, if there is one. -/
def toString? (bytes : Bytes) : Option String := String.fromUTF8? ⟨bytes.toArray⟩

/-- The parts of a byte string between separators. -/
def splitAt (separator : UInt8) : Bytes → List Bytes
  | [] => [[]]
  | b :: rest =>
    match splitAt separator rest with
    | first :: others =>
      if b = separator then [] :: first :: others else (b :: first) :: others
    | [] => [[b]]

/-- Two texts with the same UTF-8 form are the same. -/
theorem ofString_injective {s t : String} (h : ofString s = ofString t) : s = t := by
  apply String.toByteArray_inj.1
  apply ByteArray.ext
  exact Array.ext' h

/-- A valid byte string is the UTF-8 form of the text it is read as. -/
theorem ofString_of_toString? {bytes : Bytes} {text : String} (h : toString? bytes = some text) :
    ofString text = bytes := by
  unfold toString? String.fromUTF8? at h
  split at h
  · cases h; rfl
  · cases h

end Bytes

end ModuleMapper
