import ModuleMapper.Bytes

/-!
# Integers — how whole numbers are written

  A number is written in digits of a base, possibly with a sign, and blanks may stand around it. Where
  no base is given, `0x` announces base sixteen and a leading zero base eight. A word of the machine
  has 64 bits: what does not fit is cut off, or reported, as the reader of the number wants it.
-/

namespace ModuleMapper.Integer

/-- The value of a digit or letter. -/
def digitValue (b : UInt8) : Nat :=
  if Byte.isDigit b then b.toNat - 0x30
  else if 0x61 ≤ b && b ≤ 0x7A then b.toNat - 0x61 + 10
  else if 0x41 ≤ b && b ≤ 0x5A then b.toNat - 0x41 + 10
  else 99

/-- The number that digits write. -/
def ofDigits (base : Nat) (digits : Bytes) : Nat :=
  digits.foldl (fun number b => base * number + digitValue b) 0

/-- A blank, or a byte that moves to another line or page. -/
def isSpace (b : UInt8) : Bool := b == Byte.space || (0x09 ≤ b && b ≤ 0x0D)

/-- The number at the front without its sign, and what follows; none if there is no digit. Base 0
    stands for the base that the digits announce. -/
def magnitude? (base : Nat) (bytes : Bytes) : Option (Nat × Bytes) :=
  let take (base : Nat) (bytes : Bytes) : Option (Nat × Bytes) :=
    let digits := bytes.takeWhile fun b => digitValue b < base
    if digits = [] then none else some (ofDigits base digits, bytes.drop digits.length)
  if base ≠ 0 then take base bytes
  else
    match bytes with
    | zero :: x :: rest =>
      if zero = Byte.digitZero then
        if x = 0x78 ∨ x = 0x58 then
          match take 16 rest with
          | some found => some found
          | none => some (0, x :: rest)
        else take 8 bytes
      else take 10 bytes
    | _ => take 10 bytes

/-- The number at the front, and what follows; none if there is no digit. -/
def read? (base : Nat) (bytes : Bytes) : Option (Int × Bytes) :=
  match bytes.dropWhile isSpace with
  | [] => none
  | b :: rest =>
    if b = Byte.dash then (magnitude? base rest).map fun (number, after) => (-(number : Int), after)
    else if b = Byte.plus then (magnitude? base rest).map fun (number, after) => ((number : Int), after)
    else (magnitude? base (b :: rest)).map fun (number, after) => ((number : Int), after)

/-- The least number of a machine word. -/
def least : Int := -0x8000000000000000

/-- The greatest number of a machine word. -/
def greatest : Int := 0x7FFFFFFFFFFFFFFF

/-- How many numbers a machine word can hold. -/
def wordCount : Nat := 0x10000000000000000

/-- Does a machine word hold the number? -/
def fits (number : Int) : Bool := least ≤ number && number ≤ greatest

/-- The number of a machine word that is nearest. -/
def clamp (number : Int) : Int := max least (min greatest number)

/-- The number of a machine word with the same low bits. -/
def wrap (number : Int) : Int := number.bmod wordCount

/-- The number that a whole word writes, if a machine word holds it. -/
def ofBytes? (base : Nat) (bytes : Bytes) : Option Int :=
  match read? base bytes with
  | some (number, rest) => if rest.all isSpace && fits number then some number else none
  | none => none

/-- The number that digits alone write. -/
def ofPlainDigits? (bytes : Bytes) : Option Nat :=
  if bytes ≠ [] && bytes.all Byte.isDigit then some (ofDigits 10 bytes) else none

/-- A number in decimal. -/
def toBytes (number : Int) : Bytes := Bytes.ofString (toString number)

/-- The digits of a number in a base up to sixteen, with letters in lower case. -/
def digits (base : Nat) (number : Nat) : Bytes :=
  Bytes.ofString (String.ofList (Nat.toDigits base number))

end ModuleMapper.Integer
