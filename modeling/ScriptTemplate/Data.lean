/-
# Compilation data (`CompilationData`)

The values that one compilation is given.  They pass unchanged through every script that it
refers to.
-/
import ScriptTemplate.Bytes
import ScriptTemplate.Dictionary
import ScriptTemplate.Json.Basic

namespace ScriptTemplate

/-- What is known of the transaction: its locktime, and whatever else was attached. -/
structure OperationData where
  locktime : Option Int := none
  extra : Dictionary Json := []
deriving Repr, Inhabited

/-- The values that a compilation is given. -/
structure Data where
  /-- Bytecode by variable name. -/
  bytecode : Dictionary Bytes := []
  operation : Option OperationData := none
  blockHeight : Option Int := none
  blockTime : Option Int := none
deriving Repr, Inhabited

/-- The locktime of the transaction, if one is given. -/
def Data.locktime (data : Data) : Option Int := data.operation.bind (·.locktime)

end ScriptTemplate
