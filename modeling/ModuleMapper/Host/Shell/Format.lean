import ModuleMapper.Host.Text.Binary64.Figures

/-!
# Formats — what `echo` and `printf` print

  Both know codes that start with a backslash. `printf` follows a format, in which directives stand
  for its arguments, and follows it again as long as arguments are left.
-/

namespace ModuleMapper.Shell.Format

open scoped Bytes

/-! ## Codes -/

/-- What stands behind a backslash: the byte that it means, and what follows. A code that is not known
    is not taken: the backslash stands for itself. -/
def code (bytes : Bytes) : UInt8 × Bytes :=
  match bytes with
  | [] => (Byte.backslash, [])
  | b :: rest =>
    let digits := (bytes.take 3).takeWhile Byte.isOctal
    if digits ≠ [] then ((Integer.ofDigits 8 digits).toUInt8, bytes.drop digits.length)
    else
      match Byte.char b with
      | 'a' => (Byte.alert, rest)
      | 'b' => (Byte.backspace, rest)
      | 'e' => (Byte.escapeCode, rest)
      | 'f' => (Byte.formFeed, rest)
      | 'n' => (Byte.newline, rest)
      | 'r' => (Byte.carriageReturn, rest)
      | 't' => (Byte.tab, rest)
      | 'v' => (Byte.verticalTab, rest)
      | '\\' => (Byte.backslash, rest)
      | _ => (Byte.backslash, bytes)

/-- A text without its codes, and whether output may go on. A zero may stand before the digits of a
    code, and the letter `c` ends all output. -/
def unescaped : Nat → Bytes → Bytes × Bool
  | 0, _ => ([], true)
  | _, [] => ([], true)
  | fuel + 1, b :: rest =>
    if b ≠ Byte.backslash then
      let (others, goesOn) := unescaped fuel rest
      (b :: others, goesOn)
    else if rest.head? = some 'c'.toUInt8 then ([], false)
    else
      let zero := rest.head? == some Byte.digitZero && (rest.tail.head?.map Byte.isOctal) == some true
      let (byte, after) := code (if zero then rest.tail else rest)
      let (others, goesOn) := unescaped fuel after
      (byte :: others, goesOn)

/-- What `echo` prints. -/
def echo (arguments : List Bytes) : Bytes :=
  let silent := arguments.head? = some ("-n" : Bytes)
  let words := if silent then arguments.tail else arguments
  let line := [Byte.space].intercalate words
  let (shown, goesOn) := unescaped (line.length + 1) line
  if goesOn && !silent then shown ++ [Byte.newline] else shown

/-! ## Directives -/

/-- A directive: its flags, its width and precision, and its letter. -/
structure Directive where
  flags : Bytes := []
  width : Nat := 0
  precision : Option Nat := none
  letter : UInt8

namespace Directive

/-- Is a flag given? -/
def has (d : Directive) (flag : Char) : Bool := d.flags.any fun b => Byte.char b == flag

/-- Fill a text up to the width. -/
def fill (d : Directive) (text : Bytes) : Bytes :=
  let blanks := List.replicate (d.width - text.length) Byte.space
  if d.has '-' then text ++ blanks else blanks ++ text

/-- A text, cut off at the precision. -/
def text (d : Directive) (value : Bytes) : Bytes := d.fill (value.take (d.precision.getD value.length))

/-- A number by its sign and its digits. -/
def signed (d : Directive) (sign digits : Bytes) : Bytes :=
  let least := d.precision.getD 1
  let digits := if d.precision = some 0 && digits = [Byte.digitZero] then [] else digits
  let digits := List.replicate (least - digits.length) Byte.digitZero ++ digits
  if d.has '0' && !d.has '-' && d.precision.isNone then
    sign ++ List.replicate (d.width - sign.length - digits.length) Byte.digitZero ++ digits
  else d.fill (sign ++ digits)

/-- A number as the letter asks for it. -/
def number (d : Directive) (value : Int) : Bytes :=
  let magnitude := value.natAbs
  let unsigned := (value % Integer.wordCount).toNat
  match Byte.char d.letter with
  | 'o' =>
    let digits := Integer.digits 8 unsigned
    let digits := if d.has '#' && digits ≠ [Byte.digitZero] then Byte.digitZero :: digits else digits
    d.signed [] digits
  | 'u' => d.signed [] (Integer.digits 10 unsigned)
  | 'x' =>
    d.signed (if d.has '#' && unsigned ≠ 0 then "0x" else "") (Integer.digits 16 unsigned)
  | 'X' =>
    let digits := (Integer.digits 16 unsigned).map Byte.toUpper
    d.signed (if d.has '#' && unsigned ≠ 0 then "0X" else "") digits
  | _ =>
    let sign : Bytes := if value < 0 then "-" else if d.has '+' then "+"
      else if d.has ' ' then " " else ""
    d.signed sign (Integer.digits 10 magnitude)

/-- The way in which the letter asks for a number with a fraction. -/
def style? (d : Directive) : Option Binary64.Style :=
  match Byte.char (Byte.toUpper d.letter) with
  | 'F' => some .fixed
  | 'E' => some .scientific
  | 'G' => some .general
  | 'A' => some .hexadecimal
  | _ => none

/-- A number with a fraction, in a way of writing it. Zeros may fill the width, though not in front of
    a value that has no digits. -/
def floating (d : Directive) (style : Binary64.Style) (value : Binary64) : Bytes :=
  let sign : Bytes := if value.isNegative then "-" else if d.has '+' then "+"
    else if d.has ' ' then " " else ""
  let hasDigits := match value.magnitude with
    | .finite _ _ => true
    | _ => false
  let announced : Bytes := if hasDigits && style == .hexadecimal then "0x" else ""
  let digits := Binary64.write style (d.has '#') d.precision value.magnitude
  let zeros := if d.has '0' && !d.has '-' && hasDigits then
      List.replicate (d.width - sign.length - announced.length - digits.length) Byte.digitZero
    else []
  let text := sign ++ announced ++ zeros ++ digits
  d.fill (if Byte.toUpper d.letter = d.letter then text.map Byte.toUpper else text)

end Directive

/-! ## Printing -/

/-- What has been printed, and what is left of the arguments. -/
structure Printer where
  shown : Bytes := []
  arguments : List Bytes
  /-- What was wrong with arguments. -/
  warnings : List Bytes := []
  /-- Has an argument ended all output? -/
  ended : Bool := false

namespace Printer

/-- Take the next argument; an empty one if none is left. -/
def next (p : Printer) : Option Bytes × Printer :=
  match p.arguments with
  | [] => (none, p)
  | argument :: others => (some argument, { p with arguments := others })

/-- Print. -/
def put (p : Printer) (bytes : Bytes) : Printer := { p with shown := p.shown ++ bytes }

/-- Note what is wrong with an argument. -/
def warn (p : Printer) (argument : Bytes) (text : String) : Printer :=
  { p with warnings := p.warnings ++ [argument ++ Bytes.ofString (": " ++ text)] }

/-- Note what is wrong with an argument that has been read as a number, if anything is: whether bytes
    are left, and whether the number fits. -/
def judge (p : Printer) (argument rest : Bytes) (fits : Bool) : Printer :=
  if rest ≠ [] then p.warn argument "not completely converted"
  else if fits then p
  else p.warn argument "Numerical result out of range"

/-- Take the next argument as a number. An argument that starts with a quote stands for the number of
    the byte behind it. -/
def nextValue {Value : Type} (p : Printer) (ofNat : Nat → Value)
    (read? : Bytes → Option (Value × Bytes × Bool)) : Value × Printer :=
  match p.next with
  | (none, p) => (ofNat 0, p)
  | (some [], p) => (ofNat 0, p)
  | (some (first :: others), p) =>
    let argument := first :: others
    if first = Byte.quote ∨ first = Byte.doubleQuote then
      (ofNat (others.head?.elim 0 UInt8.toNat), p)
    else
      match read? argument with
      | none => (ofNat 0, p.warn argument "expected numeric value")
      | some (value, rest, fits) => (value, p.judge argument rest fits)

/-- Take the next argument as a whole number. -/
def nextNumber (p : Printer) (signed : Bool) : Int × Printer :=
  p.nextValue Int.ofNat fun argument =>
    (Integer.read? 0 argument).map fun (value, rest) =>
      let most : Int := if signed then Integer.greatest else Integer.wordCount - 1
      let least : Int := if signed then Integer.least else -most
      (max least (min most value), rest, least ≤ value && value ≤ most)

/-- Read digits, or take the next argument for an asterisk. -/
def measure (p : Printer) (format : Bytes) : Option Int × Bytes × Printer :=
  if format.head? = some Byte.star then
    let (value, p) := p.nextNumber true
    (some value, format.tail, p)
  else
    let digits := format.takeWhile Byte.isDigit
    let value : Option Int := if digits = [] then none else some (Integer.ofDigits 10 digits)
    (value, format.drop digits.length, p)

/-- Carry out a directive; or say that it is none. -/
def direct (p : Printer) (d : Directive) (written : Bytes) : Except (Bytes × Printer) Printer :=
  match Byte.char d.letter with
  | 's' =>
    let (argument, p) := p.next
    .ok (p.put (d.text (argument.getD [])))
  | 'b' =>
    let (argument, p) := p.next
    let argument := argument.getD []
    let (text, goesOn) := unescaped (argument.length + 1) argument
    .ok { p.put (d.text text) with ended := !goesOn }
  | 'c' =>
    let (argument, p) := p.next
    .ok (p.put (d.fill [(argument.bind List.head?).getD Byte.nul]))
  | 'd' | 'i' =>
    let (value, p) := p.nextNumber true
    .ok (p.put (d.number value))
  | 'o' | 'u' | 'x' | 'X' =>
    let (value, p) := p.nextNumber false
    .ok (p.put (d.number value))
  | _ =>
    match d.style? with
    | some style =>
      let (value, p) := p.nextValue Binary64.ofNat Binary64.read?
      .ok (p.put (d.floating style value))
    | none => .error (written ++ (": invalid directive" : Bytes), p)

/-- Follow the directive behind a percent sign. -/
def directive (p : Printer) (format : Bytes) : Except (Bytes × Printer) (Printer × Bytes) :=
  let flags := format.takeWhile fun b => Byte.isOneOf b "#-+ 0"
  let (width, rest, p) := p.measure (format.drop flags.length)
  let (precision, rest, p) : Option Int × Bytes × Printer :=
    if rest.head? = some Byte.dot then
      let (value, rest, p) := p.measure rest.tail
      (some (value.getD 0), rest, p)
    else (none, rest, p)
  match rest with
  | [] => .error ("missing format character", p)
  | letter :: after =>
    let width := width.getD 0
    let d : Directive :=
      { flags := if width < 0 then Byte.dash :: flags else flags
        width := width.natAbs
        precision := precision.bind fun value => if value < 0 then none else some value.toNat
        letter }
    let written := format.take (format.length - after.length)
    match p.direct d (Byte.percent :: written) with
    | .ok p => .ok (p, after)
    | .error refused => .error refused

/-- Follow a format once. -/
def follow : Nat → Printer → Bytes → Except (Bytes × Printer) Printer
  | 0, p, _ => .ok p
  | _, p, [] => .ok p
  | fuel + 1, p, b :: rest =>
    if p.ended then .ok p
    else if b = Byte.backslash then
      let (byte, after) := code rest
      follow fuel (p.put [byte]) after
    else if b ≠ Byte.percent then follow fuel (p.put [b]) rest
    else if rest.head? = some Byte.percent then follow fuel (p.put [b]) rest.tail
    else
      match p.directive rest with
      | .ok (p, after) => follow fuel p after
      | .error refused => .error refused

/-- Follow a format as long as it takes arguments. -/
def repeatedly (format : Bytes) : Nat → Printer → Except (Bytes × Printer) Printer
  | 0, p => .ok p
  | fuel + 1, p =>
    match follow (format.length + 1) p format with
    | .error refused => .error refused
    | .ok after =>
      if after.ended || after.arguments = [] || after.arguments.length = p.arguments.length then
        .ok after
      else repeatedly format fuel after

end Printer

/-- What `printf` prints; or how its format is wrong, and what it printed before. -/
def printf (format : Bytes) (arguments : List Bytes) : Except (Bytes × Printer) Printer :=
  Printer.repeatedly format (arguments.length + 1) { arguments }

end ModuleMapper.Shell.Format
