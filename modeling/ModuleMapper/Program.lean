import ModuleMapper.Host
import ModuleMapper.Program.Basic

/-!
# The program on its host

  The children of the executable are programs of the host.
-/

namespace ModuleMapper

/-- The compiler that runs every invocation on the host. -/
def Child.compiler (inherited : List (String × Bytes)) : Compiler Bytes := Host.launcher.compiler inherited

/-- Run the program on the host. -/
def Program.run (start : Start) : Result := runBy Host.launcher start

end ModuleMapper
