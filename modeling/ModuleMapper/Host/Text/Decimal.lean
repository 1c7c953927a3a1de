import ModuleMapper.Host.Text.Integer

/-!
# Decimals — numbers with digits behind a point

  A number is held in units of its last place, so that nothing is lost when it is read or written.
-/

namespace ModuleMapper

/-- A number with digits behind a point. -/
structure Decimal where
  /-- The number in units of the last place. -/
  units : Int
  places : Nat
  deriving Repr, DecidableEq

namespace Decimal

/-- Read a number. -/
def ofBytes? (bytes : Bytes) : Option Decimal :=
  let bytes := bytes.dropWhile Integer.isSpace
  let negative := bytes.head? == some Byte.dash
  let digits := if negative || bytes.head? == some Byte.plus then bytes.tail else bytes
  let whole := digits.takeWhile Byte.isDigit
  let fraction? := match digits.drop whole.length with
    | [] => some []
    | dot :: rest => if dot = Byte.dot && rest.all Byte.isDigit then some rest else none
  match fraction? with
  | none => none
  | some fraction =>
    if whole = [] && fraction = [] then none
    else
      let units : Int := Integer.ofDigits 10 (whole ++ fraction)
      some ⟨if negative then -units else units, fraction.length⟩

/-- The number in units of a place at least as far behind the point. -/
def scaled (number : Decimal) (places : Nat) : Int :=
  number.units * Nat.pow 10 (places - number.places)

/-- The text of a number. -/
def toBytes (number : Decimal) : Bytes :=
  let digits := Integer.toBytes number.units.natAbs
  let digits := List.replicate (number.places + 1 - digits.length) Byte.digitZero ++ digits
  let whole := digits.take (digits.length - number.places)
  let fraction := digits.drop whole.length
  (if number.units < 0 then [Byte.dash] else []) ++ whole
    ++ (if fraction = [] then [] else Byte.dot :: fraction)

end Decimal

end ModuleMapper
