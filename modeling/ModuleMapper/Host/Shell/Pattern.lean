import ModuleMapper.FileSystem.Tree

/-!
# Patterns — which words and file names are meant

  In a pattern `?` stands for any byte, `*` for any bytes, and brackets for one of the bytes that they
  list. A quoted byte, or one behind a backslash, stands for itself only.

  A pattern is matched against a whole word, cut off the front or the back of a value, or followed
  through directories.
-/

namespace ModuleMapper.Shell

open scoped Bytes

/-- A byte that may be quoted. -/
structure Glyph where
  byte : UInt8
  quoted : Bool
  deriving Repr, DecidableEq

/-- What brackets list. -/
inductive Member where
  | range (first last : UInt8)
  /-- One of the named classes of bytes. -/
  | named (name : Bytes)
  deriving Repr, DecidableEq

/-- A part of a pattern. -/
inductive Atom where
  | byte (b : UInt8)
  | any
  | many
  | oneOf (inverted : Bool) (members : List Member)
  deriving Repr, DecidableEq

/-- A pattern. -/
abbrev Pattern := List Atom

namespace Member

/-- Is the byte in a named class? -/
def inClass (name : Bytes) (b : UInt8) : Bool :=
  let upper := 0x41 ≤ b && b ≤ 0x5A
  let lower := 0x61 ≤ b && b ≤ 0x7A
  let graph := 0x21 ≤ b && b ≤ 0x7E
  match name.toString? with
  | some "alpha" => upper || lower
  | some "digit" => Byte.isDigit b
  | some "alnum" => Byte.isAlphanumeric b
  | some "upper" => upper
  | some "lower" => lower
  | some "space" => b == Byte.space || (0x09 ≤ b && b ≤ 0x0D)
  | some "blank" => Byte.isBlank b
  | some "punct" => graph && !Byte.isAlphanumeric b
  | some "print" => graph || b == Byte.space
  | some "graph" => graph
  | some "cntrl" => b < 0x20 || b == Byte.delete
  | some "xdigit" => Byte.isDigit b || (0x41 ≤ b && b ≤ 0x46) || (0x61 ≤ b && b ≤ 0x66)
  | _ => false

/-- Does the member hold the byte? -/
def holds (b : UInt8) : Member → Bool
  | range first last => first ≤ b && b ≤ last
  | named name => inClass name b

end Member

namespace Pattern

/-! ## Reading -/

/-- The name of a class that starts here, behind its opening bracket and colon. -/
def className? (glyphs : List Glyph) : Option (Bytes × List Glyph) :=
  let name := glyphs.takeWhile fun glyph => Byte.isAlphanumeric glyph.byte
  match glyphs.drop name.length with
  | colon :: bracket :: rest =>
    if colon.byte = Byte.colon ∧ bracket.byte = Byte.rightBracket ∧ name ≠ [] then
      some (name.map Glyph.byte, rest)
    else none
  | _ => none

/-- The byte at the front, and what follows; a backslash gives way to the byte behind it. -/
def member? : List Glyph → Option (UInt8 × List Glyph)
  | [] => none
  | glyph :: rest =>
    match rest with
    | next :: others =>
      if glyph.byte = Byte.backslash && !glyph.quoted then some (next.byte, others)
      else some (glyph.byte, rest)
    | [] => some (glyph.byte, rest)

/-- The members up to the closing bracket, which does not close at the very front. -/
def members? : Nat → Bool → List Glyph → Option (List Member × List Glyph)
  | 0, _, _ => none
  | fuel + 1, atFront, glyphs =>
    match glyphs with
    | [] => none
    | glyph :: rest =>
      if glyph.byte = Byte.rightBracket && !glyph.quoted && !atFront then some ([], rest)
      else
        let opensClass := glyph.byte == Byte.leftBracket && (rest.head?.map Glyph.byte) == some Byte.colon
        match if opensClass then className? rest.tail else none with
        | some (name, others) =>
          (members? fuel false others).map fun (members, after) => (.named name :: members, after)
        | none =>
          match member? glyphs with
          | none => none
          | some (first, others) =>
            match others with
            | dash :: last :: more =>
              if dash.byte = Byte.dash && !dash.quoted && !(last.byte == Byte.rightBracket && !last.quoted) then
                match member? (last :: more) with
                | none => none
                | some (last, after) =>
                  (members? fuel false after).map fun (members, after) =>
                    (.range first last :: members, after)
              else
                (members? fuel false others).map fun (members, after) =>
                  (.range first first :: members, after)
            | _ =>
              (members? fuel false others).map fun (members, after) =>
                (.range first first :: members, after)

/-- Read a pattern. Brackets that are not closed stand for themselves. -/
def read : Nat → List Glyph → Pattern
  | 0, _ => []
  | _, [] => []
  | fuel + 1, glyph :: rest =>
    if glyph.quoted then .byte glyph.byte :: read fuel rest
    else
      match Byte.char glyph.byte with
      | '*' => .many :: read fuel rest
      | '?' => .any :: read fuel rest
      | '\\' =>
        match rest with
        | next :: others => .byte next.byte :: read fuel others
        | [] => [.byte glyph.byte]
      | '[' =>
        let inverted := rest.head?.any fun next => !next.quoted && next.byte == Byte.exclamation
        match members? (rest.length + 1) true (if inverted then rest.tail else rest) with
        | some (members, others) => .oneOf inverted members :: read fuel others
        | none => .byte glyph.byte :: read fuel rest
      | _ => .byte glyph.byte :: read fuel rest

/-- The pattern that glyphs write. -/
def ofGlyphs (glyphs : List Glyph) : Pattern := read glyphs.length glyphs

/-! ## Matching -/

/-- All that is left of a byte string after some of its front is gone, longest first. -/
def suffixes : Bytes → List Bytes
  | [] => [[]]
  | b :: rest => (b :: rest) :: suffixes rest

/-- What may be left of some byte strings behind what the pattern stands for. Each of the byte strings
    is the end of the one before it, and so is each of those that are left. -/
def rests : Pattern → List Bytes → List Bytes
  | [], found => found
  | .byte wanted :: others, found =>
    rests others (found.filterMap fun bytes =>
      match bytes with
      | b :: rest => if b = wanted then some rest else none
      | [] => none)
  | .any :: others, found => rests others (found.filterMap List.tail?)
  | .oneOf inverted members :: others, found =>
    rests others (found.filterMap fun bytes =>
      match bytes with
      | b :: rest => if (members.any (Member.holds b)) != inverted then some rest else none
      | [] => none)
  | .many :: others, found => rests others ((found.head?.map suffixes).getD [])

/-- Does the pattern stand for the whole byte string? -/
def isMatch (pattern : Pattern) (bytes : Bytes) : Bool :=
  (pattern.rests [bytes]).getLast? == some []

/-- A value without the part at its front that the pattern stands for, if there is one. -/
def trimFront? (pattern : Pattern) (longest : Bool) (value : Bytes) : Option Bytes :=
  let rests := pattern.rests [value]
  if longest then rests.getLast? else rests.head?

/-- A value without the part at its back that the pattern stands for, if there is one. -/
def trimBack? (pattern : Pattern) (longest : Bool) (value : Bytes) : Option Bytes :=
  (trimFront? pattern.reverse longest value.reverse).map List.reverse

/-- A value without the part at its front, or at its back, that the pattern stands for. -/
def trim (pattern : Pattern) (front longest : Bool) (value : Bytes) : Bytes :=
  (if front then pattern.trimFront? longest value else pattern.trimBack? longest value).getD value

/-- Arguments without a part at their back. It starts in the last argument that it can start in, and
    what comes behind that argument goes too. The arguments are in reverse order. -/
def trimLast? (pattern : Pattern) : List Bytes → Option (List Bytes)
  | [] => none
  | last :: before =>
    match pattern.trimBack? false last with
    | some left => some (left :: before)
    | none => pattern.trimLast? before

/-- Arguments without the part at their front, or at their back, that the pattern stands for. It never
    stands for the end of one argument and the front of the next: only the first argument is looked at,
    or every one from the last on. Where the pattern stands for all that is looked at, or from a place
    in it on, the arguments behind it go too. -/
def trimArguments (pattern : Pattern) (front longest : Bool) : List Bytes → List Bytes
  | [] => []
  | [value] => [pattern.trim front longest value]
  | first :: others =>
    match front, longest with
    | true, false => pattern.trim true false first :: others
    | true, true =>
      if pattern.isMatch first then [[]] else pattern.trim true true first :: others
    | false, true =>
      match pattern.trimBack? true first with
      | some left => [left]
      | none => first :: others
    | false, false => ((pattern.trimLast? (first :: others).reverse).map List.reverse).getD (first :: others)

/-! ## File names -/

/-- May the glyphs stand for more than one name? -/
def isOpen (glyphs : List Glyph) : Bool :=
  glyphs.any fun glyph => !glyph.quoted && Byte.isOneOf glyph.byte "*?["

/-- The bytes of glyphs, where a backslash protects the byte behind it. -/
def unescaped : List Glyph → Bytes
  | [] => []
  | glyph :: rest =>
    if glyph.byte = Byte.backslash && !glyph.quoted then
      match rest with
      | next :: others => next.byte :: unescaped others
      | [] => [glyph.byte]
    else glyph.byte :: unescaped rest

/-- Is the byte of a glyph a slash? -/
def isSlash (glyph : Glyph) : Bool := glyph.byte == Byte.slash

/-- The paths that exist and that glyphs stand for, behind a path that was followed already. -/
def paths (files : FileSystem) : Nat → Path → List Glyph → List Path
  | 0, _, _ => []
  | fuel + 1, before, glyphs =>
    let slashes := glyphs.takeWhile isSlash
    let name := (glyphs.drop slashes.length).takeWhile (!isSlash ·)
    let rest := glyphs.drop (slashes.length + name.length)
    let before := before ++ slashes.map Glyph.byte
    if name = [] then if files.holds before then [before] else []
    else if !isOpen name then
      let path := before ++ unescaped name
      if rest = [] then if files.holds path then [path] else []
      else paths files fuel path rest
    else
      let pattern := ofGlyphs name
      let hidden := (unescaped name).head? == some Byte.dot
      let directory := if before = [] then Path.here else before
      match files.namesAt directory with
      | .error _ => []
      | .ok names =>
        let names := (if hidden then [Path.here, Path.up] else []) ++ names
        let found := names.filter fun found =>
          (hidden || found.head? != some Byte.dot) && pattern.isMatch found
        found.flatMap fun found =>
          if rest = [] then [before ++ found] else paths files fuel (before ++ found) rest

/-- The paths that glyphs stand for, sorted by bytes. -/
def expand (files : FileSystem) (glyphs : List Glyph) : List Path :=
  (paths files (glyphs.length + 1) [] glyphs).mergeSort fun a b => decide (a ≤ b)

end Pattern

end ModuleMapper.Shell
