import ModuleMapper.Bytes

/-!
# Lossy text — UTF-8 in which something may be broken

  Error messages and compiler command lines show byte strings that need not be valid UTF-8. Every
  maximal part of the bytes that cannot be continued to a character is shown as one replacement
  character, and decoding goes on behind it.
-/

namespace ModuleMapper.Text

/-- What stands for bytes that are no character. -/
abbrev replacement : Char := '\uFFFD'

/-- What a first byte promises: the value its own bits give, how many bytes follow, and the range the
    first of these must lie in. No such promise for a byte that starts no character. -/
def promise? (b : UInt8) : Option (Nat × Nat × Nat × Nat) :=
  let n := b.toNat
  if n < 0x80 then some (n, 0, 0x80, 0xBF)
  else if 0xC2 ≤ n ∧ n ≤ 0xDF then some (n - 0xC0, 1, 0x80, 0xBF)
  else if n = 0xE0 then some (n - 0xE0, 2, 0xA0, 0xBF)
  else if n = 0xED then some (n - 0xE0, 2, 0x80, 0x9F)
  else if 0xE1 ≤ n ∧ n ≤ 0xEF then some (n - 0xE0, 2, 0x80, 0xBF)
  else if n = 0xF0 then some (n - 0xF0, 3, 0x90, 0xBF)
  else if 0xF1 ≤ n ∧ n ≤ 0xF3 then some (n - 0xF0, 3, 0x80, 0xBF)
  else if n = 0xF4 then some (n - 0xF0, 3, 0x80, 0x8F)
  else none

/-- Take `count` further bytes of a character, the first within `low` and `high`. The character and
    what follows it, or the replacement and the first byte that does not fit. -/
def gather : (count : Nat) → (value low high : Nat) → Bytes → Char × Bytes
  | 0, value, _, _, rest => (Char.ofNat value, rest)
  | _ + 1, _, _, _, [] => (replacement, [])
  | count + 1, value, low, high, b :: rest =>
    if low ≤ b.toNat ∧ b.toNat ≤ high then
      gather count (value * 64 + (b.toNat - 0x80)) 0x80 0xBF rest
    else (replacement, b :: rest)

theorem length_gather_le (count value low high : Nat) (rest : Bytes) :
    (gather count value low high rest).2.length ≤ rest.length := by
  induction rest generalizing count value low high with
  | nil => cases count <;> simp [gather]
  | cons b rest ih =>
    cases count with
    | zero => simp [gather]
    | succ count =>
      simp only [gather]
      split
      · exact Nat.le_succ_of_le (ih ..)
      · simp

/-- The first character of a byte string, and the bytes behind it. -/
def firstChar (b : UInt8) (rest : Bytes) : Char × Bytes :=
  match promise? b with
  | some (value, count, low, high) => gather count value low high rest
  | none => (replacement, rest)

theorem length_firstChar_le (b : UInt8) (rest : Bytes) :
    (firstChar b rest).2.length ≤ rest.length := by
  unfold firstChar
  split
  · exact length_gather_le ..
  · exact Nat.le_refl _

/-- The characters of a byte string. -/
def lossyChars : Bytes → List Char
  | [] => []
  | b :: rest => (firstChar b rest).1 :: lossyChars (firstChar b rest).2
termination_by bytes => bytes.length
decreasing_by
  have := length_firstChar_le b rest
  simp only [List.length_cons]
  omega

/-- A byte string as text, whatever it holds. -/
def lossy (bytes : Bytes) : String := String.ofList (lossyChars bytes)

end ModuleMapper.Text
