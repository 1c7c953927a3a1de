import ModuleMapper.Host.Text.Binary64
import ModuleMapper.Host.Text.Decimal

/-!
# Figures — how binary floating-point numbers are written

  There are four ways to write a finite magnitude: with a fixed number of places, with one digit in
  front of the point and a power of ten, in the shorter of these two, and with binary digits in groups
  of four. All of them round the exact value, and of two equally near texts the even one is taken.
-/

namespace ModuleMapper.Binary64

open scoped Bytes

/-- How a number is written. -/
inductive Style where
  | fixed
  | scientific
  | general
  | hexadecimal
  deriving Repr, DecidableEq

/-- A magnitude in units of a decimal place, which may stand in front of the point. -/
def inPlaces (digits : Nat) (exponent : Int) (places : Int) : Nat :=
  nearestQuotient (digits * Nat.pow 2 exponent.toNat * Nat.pow 10 places.toNat)
    (Nat.pow 2 (-exponent).toNat * Nat.pow 10 (-places).toNat)

/-- How many decimal digits a number has. -/
def width (number : Nat) : Nat := (Integer.digits 10 number).length

/-- No magnitude but zero is less than one in units of this decimal place. -/
def lastPlace : Nat := 330

/-- A magnitude with one digit in front of the point: its digits as a whole number, and its power of
    ten. -/
def leading (digits : Nat) (exponent : Int) (places : Nat) : Nat × Int :=
  if digits = 0 then (0, 0)
  else
    let exact := digits * Nat.pow 2 exponent.toNat * Nat.pow 10 lastPlace / Nat.pow 2 (-exponent).toNat
    let power : Int := width exact - 1 - lastPlace
    let rounded := inPlaces digits exponent (places - power)
    if width rounded = places + 1 then (rounded, power)
    else (inPlaces digits exponent (places - power - 1), power + 1)

/-- Digits with a point; the point is left out if nothing follows it, unless it is asked for. -/
def pointed (keepsPoint : Bool) (units places : Nat) : Bytes :=
  let text := (Decimal.mk units places).toBytes
  if keepsPoint && places == 0 then text ++ [Byte.dot] else text

/-- An exponent with its sign. -/
def power (least : Nat) (letter : Bytes) (exponent : Int) : Bytes :=
  let digits := Integer.toBytes exponent.natAbs
  letter ++ (if exponent < 0 then [Byte.dash] else [Byte.plus])
    ++ List.replicate (least - digits.length) Byte.digitZero ++ digits

/-- Digits without zeros behind the point. -/
def trimZeros : Nat → Nat → Nat × Nat
  | units, 0 => (units, 0)
  | units, places + 1 => if units % 10 = 0 then trimZeros (units / 10) places else (units, places + 1)

/-- Write a magnitude in the shorter way, with a number of digits. Zeros behind the point are kept with
    the point, but not where it is the rounding that makes the number too great for the plain way. -/
def general (keepsPoint : Bool) (digits : Nat) (exponent : Int) (count : Nat) : Bytes :=
  let (units, tenfold) := leading digits exponent (count - 1)
  let isPlain := -4 ≤ tenfold ∧ tenfold < count
  let whole := digits * Nat.pow 2 exponent.toNat / Nat.pow 2 (-exponent).toNat
  let hasOutgrown := tenfold = count ∧ whole < Nat.pow 10 count
  let places := if isPlain then (count - 1 - tenfold).toNat else count - 1
  let (units, places) := if keepsPoint ∧ ¬hasOutgrown then (units, places) else trimZeros units places
  pointed keepsPoint units places ++ if isPlain then [] else power 2 "e" tenfold

/-- Write a magnitude with binary digits in groups of four, of which all that are not zero are written
    if their number is not given. -/
def hexadecimal (keepsPoint : Bool) (digits : Nat) (exponent : Int) (places? : Option Nat) : Bytes :=
  let shift := if digits = 0 then 0
    else min (Magnitude.precision - 1 - digits.log2) (exponent - Magnitude.leastExponent).toNat
  let exact := digits * Nat.pow 2 shift
  let twofold := if digits = 0 then 0 else exponent - shift + (Magnitude.precision - 1 : Nat)
  let groups := 13
  let places := places?.getD groups
  let units := if places < groups then nearestQuotient exact (Nat.pow 16 (groups - places))
    else exact * Nat.pow 16 (places - groups)
  let fraction := Integer.digits 16 (units % Nat.pow 16 places)
  let fraction := if places = 0 then []
    else List.replicate (places - fraction.length) Byte.digitZero ++ fraction
  let fraction := if places?.isSome then fraction
    else (fraction.reverse.dropWhile (· == Byte.digitZero)).reverse
  let point := if fraction = [] && !keepsPoint then [] else [Byte.dot]
  Integer.digits 16 (units / Nat.pow 16 places) ++ point ++ fraction ++ power 1 "p" twofold

/-- Write a magnitude. -/
def write (style : Style) (keepsPoint : Bool) (precision? : Option Nat) (magnitude : Magnitude) : Bytes :=
  let precision := precision?.getD 6
  match magnitude with
  | .infinite => "inf"
  | .undefined => "nan"
  | .finite digits exponent =>
    match style with
    | .fixed => pointed keepsPoint (inPlaces digits exponent precision) precision
    | .scientific =>
      let (units, tenfold) := leading digits exponent precision
      pointed keepsPoint units precision ++ power 2 "e" tenfold
    | .general => general keepsPoint digits exponent (max precision 1)
    | .hexadecimal => hexadecimal keepsPoint digits exponent precision?

end ModuleMapper.Binary64
