import ModuleMapper.Host.Text.Integer

/-!
# Binary floating-point numbers — numbers with 53 binary digits

  A number is a sign, at most 53 binary digits and a power of two. A text that writes another number
  is read as the number nearest to it, and of two that are equally near as the one whose last digit is
  even (`nearestQuotient`). Numbers that are too great are read as infinite, and numbers that are too
  small lose digits.
-/

namespace ModuleMapper

open scoped Bytes

/-- The whole number nearest to a quotient; of two equally near ones the even one. -/
def nearestQuotient (numerator denominator : Nat) : Nat :=
  let below := numerator / denominator
  let twice := 2 * (numerator % denominator)
  if twice < denominator ∨ (twice = denominator ∧ below % 2 = 0) then below else below + 1

/-- How great a number is. -/
inductive Magnitude where
  /-- Binary digits, as a whole number, times a power of two. -/
  | finite (digits : Nat) (exponent : Int)
  | infinite
  /-- No number at all. -/
  | undefined
  deriving Repr, DecidableEq

/-- A number with 53 binary digits. -/
structure Binary64 where
  isNegative : Bool := false
  magnitude : Magnitude
  deriving Repr, DecidableEq

namespace Magnitude

/-- How many binary digits a number has. -/
def precision : Nat := 53

/-- The exponent of the last digit of the least numbers. -/
def leastExponent : Int := -1074

/-- No number reaches two to this power. -/
def limit : Int := 1024

/-- A quotient in units of a power of two. -/
def inUnits (exponent : Int) (numerator denominator : Nat) : Nat × Nat :=
  (numerator * Nat.pow 2 (-exponent).toNat, denominator * Nat.pow 2 exponent.toNat)

/-- The magnitude nearest to a quotient. The result says, too, whether the quotient is in range: neither
    too great, nor so small that digits were lost. -/
def nearest (numerator denominator : Nat) : Magnitude × Bool :=
  if numerator = 0 then (finite 0 0, true)
  else
    let round (exponent : Int) : Nat :=
      let (dividend, divisor) := inUnits exponent numerator denominator
      nearestQuotient dividend divisor
    let guess : Int := (numerator.log2 : Int) - denominator.log2 - precision
    let (dividend, divisor) := inUnits guess numerator denominator
    let wanted := if (dividend / divisor).log2 < precision then guess else guess + 1
    let exponent := max wanted leastExponent
    let digits := round exponent
    let (dividend, divisor) := inUnits exponent numerator denominator
    let isTiny := (round wanted).log2 + wanted < leastExponent + precision - 1
    if digits ≠ 0 ∧ digits.log2 + exponent ≥ limit then (infinite, false)
    else (finite digits exponent, !isTiny || dividend % divisor == 0)

/-- The magnitude nearest to a number times a power of a base, which is 2 or 10. The powers of other
    exponents than these are out of range in any case. -/
def scaled (base number : Nat) (exponent : Int) : Magnitude × Bool :=
  let bits : Int := if base = 2 then 1 else 3
  let size := number.log2 + bits * exponent
  if number = 0 then (finite 0 0, true)
  else if exponent > 0 ∧ size > 2 * limit then (infinite, false)
  else if exponent < 0 ∧ size < 2 * leastExponent then (finite 0 0, false)
  else nearest (number * Nat.pow base exponent.toNat) (Nat.pow base (-exponent).toNat)

end Magnitude

namespace Binary64

/-! ## Reading -/

/-- A number that stands at the front of a text. -/
structure Reading where
  magnitude : Magnitude
  rest : Bytes
  /-- Is what the text writes in range? -/
  fits : Bool := true

/-- The bytes in lower case. -/
def toLower (bytes : Bytes) : Bytes :=
  bytes.map fun b => if 0x41 ≤ b && b ≤ 0x5A then b + 0x20 else b

/-- What follows a word, in upper or lower case. -/
def after? (word : Bytes) (bytes : Bytes) : Option Bytes :=
  if toLower (bytes.take word.length) = word then some (bytes.drop word.length) else none

/-- The exponent behind a letter, and what follows; no exponent counts as zero. -/
def exponent (letter : Bytes) (bytes : Bytes) : Int × Bytes :=
  match after? letter bytes with
  | none => (0, bytes)
  | some behind =>
    let isNegative := behind.head? == some Byte.dash
    let start := if isNegative || behind.head? == some Byte.plus then behind.tail else behind
    let digits := start.takeWhile Byte.isDigit
    let value : Int := Integer.ofDigits 10 digits
    if digits = [] then (0, bytes)
    else (if isNegative then -value else value, start.drop digits.length)

/-- The number in digits of a base, perhaps with a point and an exponent. Each digit behind the point
    stands for as many powers of `power` as `step` says. -/
def readDigits? (base power step : Nat) (letter : Bytes) (bytes : Bytes) : Option Reading :=
  let isDigit (b : UInt8) : Bool := Integer.digitValue b < base
  let whole := bytes.takeWhile isDigit
  let behind := bytes.drop whole.length
  let hasPoint := behind.head? == some Byte.dot
  let fraction := if hasPoint then behind.tail.takeWhile isDigit else []
  let after := if hasPoint then behind.tail.drop fraction.length else behind
  if whole = [] && fraction = [] then none
  else
    let (power', rest) := exponent letter after
    let number := Integer.ofDigits base (whole ++ fraction)
    let (magnitude, fits) := Magnitude.scaled power number (power' - step * fraction.length)
    some { magnitude, rest, fits }

/-- A note in parentheses behind a value that is no number is passed over. -/
def skipNote (bytes : Bytes) : Bytes :=
  match bytes with
  | [] => bytes
  | b :: inside =>
    let note := inside.takeWhile fun b => Byte.isAlphanumeric b || b == Byte.underscore
    match inside.drop note.length with
    | closing :: rest => if b = Byte.leftParenthesis ∧ closing = 0x29 then rest else bytes
    | [] => bytes

/-- The magnitude at the front of a text. -/
def magnitude? (bytes : Bytes) : Option Reading :=
  match after? "infinity" bytes, after? "inf" bytes, after? "nan" bytes with
  | some rest, _, _ => some { magnitude := .infinite, rest }
  | _, some rest, _ => some { magnitude := .infinite, rest }
  | _, _, some rest => some { magnitude := .undefined, rest := skipNote rest }
  | _, _, _ =>
    match (after? "0x" bytes).bind (readDigits? 16 2 4 "p") with
    | some found => some found
    | none => readDigits? 10 10 1 "e" bytes

/-- The number at the front of a text, what follows, and whether the number is in range; none if there
    is no number. -/
def read? (bytes : Bytes) : Option (Binary64 × Bytes × Bool) :=
  let bytes := bytes.dropWhile Integer.isSpace
  let isNegative := bytes.head? == some Byte.dash
  let digits := if isNegative || bytes.head? == some Byte.plus then bytes.tail else bytes
  (magnitude? digits).map fun found => ({ isNegative, magnitude := found.magnitude }, found.rest, found.fits)

/-- A whole number that needs no more than 53 binary digits. -/
def ofNat (number : Nat) : Binary64 := { magnitude := .finite number 0 }

end Binary64

end ModuleMapper
