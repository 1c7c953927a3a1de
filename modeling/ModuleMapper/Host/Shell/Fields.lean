import ModuleMapper.Host.Shell.Pattern

/-!
# Fields — how the value of a word is split

  The value of a word is a list of pieces. Bytes that were put in without quotes may be field
  separators. White separators only separate; any other separator ends a field, even an empty one,
  together with the white ones around it in the same value. A quotation makes a field even if it is
  empty.

  Arguments that were put in with quotes are fields of their own. In the first value that is put in
  without quotes behind them, every separator ends a field.
-/

namespace ModuleMapper.Shell

/-- A piece of a word's value. -/
inductive Piece where
  /-- A byte; it may separate fields if it `splits`. -/
  | byte (b : UInt8) (quoted splits : Bool)
  /-- A quotation starts here. -/
  | mark
  /-- A value starts here that is put in without quotes. -/
  | value
  /-- The place between two arguments without quotes. -/
  | gap
  /-- The place between two arguments with quotes. -/
  | boundary
  /-- The last of some arguments with quotes ends here. -/
  | listEnd
  deriving Repr, DecidableEq

/-- Fields that are being cut off. -/
structure Splitter where
  /-- The fields that are whole, the last one first. -/
  whole : List (List Glyph) := []
  /-- The field that is being put together, in reverse order. -/
  current : Option (List Glyph) := none
  /-- Has white space ended a field, and nothing come since? -/
  afterWhite : Bool := false
  /-- Have arguments with quotes been put in, and no value since? -/
  afterList : Bool := false
  /-- Does every separator end a field? -/
  strict : Bool := false

namespace Splitter

/-- End the field that is being put together, if there is one. -/
def close (s : Splitter) : Splitter :=
  match s.current with
  | some glyphs => { s with whole := glyphs.reverse :: s.whole, current := none }
  | none => s

/-- End a field, be it empty. -/
def endField (s : Splitter) : Splitter :=
  { s with whole := (s.current.getD []).reverse :: s.whole, current := none, afterWhite := false }

/-- Is it a separator that only separates? -/
def isWhite (b : UInt8) : Bool := Byte.isBlank b || b == Byte.newline

/-- Take a separator. -/
def separate (white : Bool) (s : Splitter) : Splitter :=
  if s.strict then s.endField
  else if s.current.isSome then { s.close with afterWhite := white }
  else if white then s
  else if s.afterWhite then { s with afterWhite := false }
  else s.endField

/-- Take a piece. -/
def step (separators : Bytes) (s : Splitter) : Piece → Splitter
  | .byte b quoted splits =>
    if splits && separators.contains b then s.separate (isWhite b)
    else { s with current := some (⟨b, quoted⟩ :: s.current.getD []), afterWhite := false }
  | .mark => { s with current := some (s.current.getD []), afterWhite := false }
  | .value => { s with afterWhite := false, strict := s.afterList, afterList := false }
  | .gap => s.separate true
  | .boundary => { s.close with afterWhite := false }
  | .listEnd => { s with afterList := true }

end Splitter

namespace Piece

/-- The fields of a word's value. -/
def fields (separators : Bytes) (pieces : List Piece) : List (List Glyph) :=
  (pieces.foldl (Splitter.step separators) {}).close.whole.reverse

/-- The value as one field. -/
def glyphs (pieces : List Piece) : List Glyph :=
  pieces.filterMap fun piece =>
    match piece with
    | .byte b quoted _ => some ⟨b, quoted⟩
    | _ => none

/-- The bytes of a value. -/
def bytes (pieces : List Piece) : Bytes := (glyphs pieces).map Glyph.byte

/-- The pieces of bytes that were put in. -/
def ofBytes (quoted : Bool) (bytes : Bytes) : List Piece := bytes.map fun b => .byte b quoted (!quoted)

/-- The pieces of a value that was put in. -/
def ofValue (quoted : Bool) (value : Bytes) : List Piece :=
  if quoted then ofBytes true value else .value :: ofBytes false value

/-- The pieces of arguments that were put in. -/
def ofArguments (quoted : Bool) (arguments : List Bytes) : List Piece :=
  if arguments.isEmpty then []
  else if quoted then
    [boundary].intercalate (arguments.map fun argument => mark :: ofBytes true argument) ++ [listEnd]
  else value :: [gap].intercalate (arguments.map (ofBytes false))

/-- The pieces of text that stands in the word itself. -/
def ofText (splits : Bool) (text : Bytes) : List Piece :=
  let pieces := text.map fun b => byte b false splits
  if splits && !text.isEmpty then value :: pieces else pieces

end Piece

end ModuleMapper.Shell
