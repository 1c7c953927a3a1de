import ModuleMapper.Bytes

/-!
# Safe names — names that a shell would read back

  A diagnostic shows a name in single quotes when a shell would take it for anything but itself, so
  that it can be pasted into a command. Bytes that do not print are written by their numbers.
-/

namespace ModuleMapper.Text.Safe

open scoped Bytes

/-- Does the byte print? -/
def prints (b : UInt8) : Bool := 0x20 ≤ b && b ≤ 0x7E

/-- Would a shell take the byte for something else? -/
def isSpecial (b : UInt8) : Bool :=
  !prints b || Byte.isOneOf b " !\"$&'()*;<=>?[\\^|" || b == Byte.backquote

/-- Would a shell take the name for something else? -/
def isSpecialName (name : Bytes) : Bool :=
  name.any isSpecial || name == [] || name == [Byte.leftBrace] || name == [Byte.rightBrace]
    || (name.head?.map fun b => Byte.isOneOf b "#~") == some true

/-- A byte by its letter, or by its number in base eight. -/
def escape (b : UInt8) : Bytes :=
  match b.toNat with
  | 7 => "\\a"
  | 8 => "\\b"
  | 9 => "\\t"
  | 10 => "\\n"
  | 11 => "\\v"
  | 12 => "\\f"
  | 13 => "\\r"
  | n =>
    Byte.backslash ::
      [n / 64, n / 8 % 8, n % 8].map fun digit => Byte.digitZero + digit.toUInt8

/-- The inside of single quotes; bytes that do not print stand in quotes of their own. -/
def inside (escaping : Bool) : Bytes → Bytes
  | [] => []
  | b :: rest =>
    if prints b then
      let resumed : Bytes := if escaping then "''" else ""
      let shown : Bytes := if b = Byte.quote then "'\\''" else [b]
      resumed ++ shown ++ inside false rest
    else
      let started : Bytes := if escaping then "" else "'$'"
      started ++ escape b ++ inside true rest

/-- The name in quotes. -/
def quoted (name : Bytes) : Bytes :=
  if name.contains Byte.quote
      && name.all fun b => prints b && !Byte.isOneOf b "\"$\\!" && b != Byte.backquote then
    Byte.doubleQuote :: name ++ [Byte.doubleQuote]
  else Byte.quote :: inside false name ++ [Byte.quote]

/-- The name in quotes, with bytes that do not print by their letters or numbers. -/
def literal (name : Bytes) : Bytes :=
  let shown := name.flatMap fun b =>
    if b = Byte.quote ∨ b = Byte.backslash then [Byte.backslash, b]
    else if prints b then [b]
    else escape b
  Byte.quote :: shown ++ [Byte.quote]

/-- The name, in quotes only if it needs them. -/
def shown (name : Bytes) : Bytes := if isSpecialName name then quoted name else name

end ModuleMapper.Text.Safe
