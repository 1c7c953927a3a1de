/-!
# Sets of code points — closed ranges, ascending and apart

  The text formats ask of a character whether it belongs to a property of the Unicode standard.
  Such a property is data: a list of closed ranges of code points.
-/

namespace ModuleMapper.Text

/-- A set of code points, as closed ranges. -/
abbrev CodePoints := List (Nat × Nat)

namespace CodePoints

/-- Does one of the ranges hold the character? -/
def contains (ranges : CodePoints) (c : Char) : Bool :=
  ranges.any fun range => range.1 ≤ c.toNat && c.toNat ≤ range.2

end CodePoints

/-- The white space of the Unicode standard: 25 characters. -/
def whiteSpace : CodePoints :=
  [(0x09, 0x0D), (0x20, 0x20), (0x85, 0x85), (0xA0, 0xA0), (0x1680, 0x1680), (0x2000, 0x200A),
   (0x2028, 0x2029), (0x202F, 0x202F), (0x205F, 0x205F), (0x3000, 0x3000)]

end ModuleMapper.Text
