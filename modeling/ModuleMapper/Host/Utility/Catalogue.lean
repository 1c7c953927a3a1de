import ModuleMapper.Host.Utility.Columns
import ModuleMapper.Host.Utility.Files
import ModuleMapper.Host.Utility.Values

/-!
# The catalogue — the programs that every system has

  A system has a shell, a program that starts others with other variables, and utilities.
-/

namespace ModuleMapper

open scoped Bytes

/-- A program of the system. -/
inductive Tool where
  | shell
  /-- Start another program with other variables. -/
  | env
  | utility (run : List Bytes → Action Nat)

namespace Tool

/-- The programs of the system by their names. -/
def catalogue : List (String × Tool) :=
  [("sh", shell), ("dash", shell), ("env", env),
   ("true", utility fun _ => return 0), ("false", utility fun _ => return 1),
   ("basename", utility Utility.basename), ("cat", utility Utility.cat),
   ("chmod", utility Utility.chmod), ("cp", utility Utility.cp), ("cut", utility Utility.cut),
   ("dirname", utility Utility.dirname), ("echo", utility Utility.echo),
   ("head", utility Utility.head), ("id", utility Utility.id), ("ls", utility Utility.ls),
   ("mkdir", utility Utility.mkdir), ("mv", utility Utility.mv),
   ("printenv", utility Utility.printenv), ("pwd", utility Utility.pwd),
   ("rev", utility Utility.rev), ("rm", utility Utility.rm), ("rmdir", utility Utility.rmdir),
   ("seq", utility Utility.seq), ("sleep", utility Utility.sleep), ("sort", utility Utility.sort),
   ("tac", utility Utility.tac), ("tail", utility Utility.tail), ("tee", utility Utility.tee),
   ("touch", utility Utility.touch), ("tr", utility Utility.tr), ("uname", utility Utility.uname),
   ("uniq", utility Utility.uniq), ("wc", utility Utility.wc), ("whoami", utility Utility.whoami)]

/-- The program of a name. -/
def named? (name : Bytes) : Option Tool :=
  (catalogue.find? fun entry => Bytes.ofString entry.1 == name).map Prod.snd

end Tool

end ModuleMapper
