import ModuleMapper.Text.Quoted
import ModuleMapper.Wire.Block

/-!
# Outlines — blocks for the eye

  A block is shown with its words quoted: on one line, or as an outline in which every list and every
  wrapper opens a level of its own and every item ends in a comma.
-/

namespace ModuleMapper.Wire

/-- The indentation of one level. -/
def indent (lines : List String) : List String := lines.map ("    " ++ ·)

/-- An item of a level: its last line ends in a comma. -/
def withComma : List String → List String
  | [] => []
  | [last] => [last ++ ","]
  | line :: others => line :: withComma others

/-- A list of items, each given by its lines. -/
def outlineList : List (List String) → List String
  | [] => ["[]"]
  | items => ["["] ++ indent (items.flatMap withComma) ++ ["]"]

/-- One item in a named wrapper. -/
def outlineIn (name : String) (item : List String) : List String :=
  [name ++ "("] ++ indent (withComma item) ++ [")"]

/-- The lines of a message. -/
def outlineMessage (message : Message) : List String :=
  outlineIn "Message" (outlineList (message.map fun word => [Text.quoteBytes word]))

/-- A block as an outline. -/
def outline (block : Block) : String :=
  "\n".intercalate (outlineIn "Block" (outlineList (block.map outlineMessage)))

/-- Items between brackets, on one line. -/
def inlineList (items : List String) : String := "[" ++ ", ".intercalate items ++ "]"

/-- A message on one line. -/
def inlineMessage (message : Message) : String :=
  "Message(" ++ inlineList (message.map Text.quoteBytes) ++ ")"

/-- A block on one line. -/
def inlineBlock (block : Block) : String :=
  "Block(" ++ inlineList (block.map inlineMessage) ++ ")"

end ModuleMapper.Wire
