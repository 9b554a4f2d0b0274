/-
# The standard toolchain (`MiniToolchain`)

The script language of this library, put together from its three stages.
-/
import ScriptTemplate.Script.Reduction
import ScriptTemplate.Toolchain.Basic

namespace ScriptTemplate.Toolchain

/-- The toolchain of the script language. -/
def standard : Toolchain (List Script.Node) (List Script.Resolved) Machine.State where
  parse text := .ok (Script.parse text)
  resolve := Script.resolveAll
  collect := Script.collectErrors
  reduce := Script.reduce

end ScriptTemplate.Toolchain
