import ModuleMapper.Host.Shell.Builtin.Arguments

/-!
# The system — what a shell may use of it

  New files may be kept from some users. There are no other limits, and no time is used.
-/

namespace ModuleMapper.Shell.Builtin

open scoped Bytes
open Run

/-- The digits of the permissions that new files do not get. -/
def octalMask (mask : Nat) : Bytes :=
  Byte.digitZero :: [mask / 64 % 8, mask / 8 % 8, mask % 8].map fun n => Byte.digitZero + n.toUInt8

/-! ## Permissions by letters -/

/-- Changes of permissions as they are read: for whom, and with what. -/
structure ModeDraft where
  /-- The permissions so far. -/
  granted : Nat
  /-- Whose permissions change; none is for everybody. -/
  who : Nat := 0
  /-- The sign of the change, and the permissions behind it. -/
  change : Option (UInt8 × Nat) := none

namespace ModeDraft

/-- The bits of a letter that names users. -/
def users? (b : UInt8) : Option Nat :=
  match Byte.char b with
  | 'u' => some 0o700
  | 'g' => some 0o070
  | 'o' => some 0o007
  | 'a' => some 0o777
  | _ => none

/-- The bits of a letter that names a permission, or users who have some already. -/
def permissions? (before : Nat) (b : UInt8) : Option Nat :=
  match Byte.char b with
  | 'r' => some 4
  | 'w' => some 2
  | 'x' => some 1
  | 'X' => some (if before &&& 0o111 = 0 then 0 else 1)
  | 's' => some 0
  | 'u' => some (before / 64 % 8)
  | 'g' => some (before / 8 % 8)
  | 'o' => some (before % 8)
  | _ => none

/-- Make the change that has been read. -/
def settle (draft : ModeDraft) : ModeDraft :=
  match draft.change with
  | none => draft
  | some (sign, bits) =>
    let who := if draft.who = 0 then 0o777 else draft.who
    let bits := bits * 0o111 &&& who
    let others := draft.granted &&& (0o777 ^^^ who)
    let own := draft.granted &&& who
    let granted :=
      if sign = Byte.equals then others ||| bits
      else if sign = Byte.dash then others ||| (own &&& (0o777 ^^^ bits))
      else others ||| own ||| bits
    { draft with granted, change := none }

/-- Read one byte; none if it does not fit. -/
def step (before : Nat) (draft : ModeDraft) (b : UInt8) : Option ModeDraft :=
  if Byte.isOneOf b "+-=" then some { draft.settle with change := some (b, 0) }
  else
    match draft.change with
    | none => (users? b).map fun bits => { draft with who := draft.who ||| bits }
    | some (sign, bits) =>
      if b = Byte.comma then some { draft.settle with who := 0 }
      else (permissions? before b).map fun more => { draft with change := some (sign, bits ||| more) }

/-- The permissions after the changes in a text. -/
def afterChanges? (granted : Nat) (text : Bytes) : Option Nat :=
  match text.foldlM (step granted) { granted } with
  | none => none
  | some draft =>
    if draft.who ≠ 0 ∧ draft.change.isNone then none else some draft.settle.granted

end ModeDraft

/-- Permissions as letters. -/
def shownMode (granted : Nat) : String :=
  let part (who : String) (bits : Nat) : String :=
    let has (bit : Nat) : Bool := bits / bit % 2 == 1
    who ++ "=" ++ (if has 4 then "r" else "") ++ (if has 2 then "w" else "") ++ (if has 1 then "x" else "")
  part "u" (granted / 64 % 8) ++ "," ++ part "g" (granted / 8 % 8) ++ "," ++ part "o" (granted % 8)

/-- Say which permissions new files do not get, or change them. -/
def umask (arguments : List Bytes) : Run Nat := do
  let (letters, operands) ← options "S" arguments
  let mask := (← get).mask
  match operands.head? with
  | none =>
    if letters = [] then put (octalMask mask ++ [Byte.newline])
    else put (Bytes.ofString (shownMode (0o777 ^^^ mask) ++ "\n"))
  | some operand =>
    let changed ←
      if operand.head?.any Byte.isDigit then
        if operand.all Byte.isOctal then pure (Integer.ofDigits 8 operand % 512)
        else fail ("Illegal number: " ++ operand)
      else
        match ModeDraft.afterChanges? (0o777 ^^^ mask) operand with
        | some granted => pure (0o777 ^^^ granted)
        | none => fail ("Illegal mode: " ++ operand)
    modify fun m => { m with mask := changed }
    return 0

/-! ## Limits -/

/-- Say how much of the system may be used. -/
def ulimit (arguments : List Bytes) : Run Nat := do
  let (letters, operands) ← options "HSatfdscmlpnvwr" arguments
  match operands with
  | [] => put "unlimited\n"
  | [operand] =>
    if letters.contains 'a' then fail "too many arguments"
    else if operand = ("unlimited" : Bytes) ∨ operand.all Byte.isDigit then return 0
    else fail "bad number"
  | _ => fail "too many arguments"

/-! ## Time -/

/-- Say how much time has been used. -/
def times : Run Nat :=
  put "0m0.000000s 0m0.000000s\n0m0.000000s 0m0.000000s\n"

end ModuleMapper.Shell.Builtin
