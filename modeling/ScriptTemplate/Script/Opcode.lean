/-
# Opcodes by name (`OPCODES`)
-/
import ScriptTemplate.Text.Basic

namespace ScriptTemplate.Script

/-- The opcodes that a script may name. -/
def opcodes : List (Text × UInt8) := [
  ("OP_0", 0x00), ("OP_PUSHDATA1", 0x4c), ("OP_PUSHDATA2", 0x4d), ("OP_1", 0x51), ("OP_2", 0x52),
  ("OP_DROP", 0x75), ("OP_DUP", 0x76), ("OP_EQUAL", 0x87), ("OP_EQUALVERIFY", 0x88),
  ("OP_SHA256", 0xa8), ("OP_HASH160", 0xa9), ("OP_CHECKSIG", 0xac),
  ("OP_CHECKLOCKTIMEVERIFY", 0xb1)]

/-- The opcode of a name. -/
def opcode? (name : Text) : Option UInt8 := opcodes.lookup name

end ScriptTemplate.Script
