/-
# Ends without a result

A compilation problem is a result.  A few situations end a call without one: a stage of the
toolchain gave up, or it handed over something that is no reduction.  What is pending on the way
out is still undone properly, and everything recorded so far stays recorded.

The end of the call stack is not among the escapes.  Scripts that refer to one another and groups in
groups are followed by recursion, as deep as they go; an interpreter stops at a depth of its own
choice, and nothing here says what happens beyond it.
-/
import ScriptTemplate.Vocabulary

namespace ScriptTemplate

/-- Why a call ended without a result. -/
inductive Escape
  /-- A prepared stage was told to give up. -/
  | exploded (stage : Stage)
  /-- A reduction with both bytecode and errors, or with neither. -/
  | ambiguousReduction
  /-- A failed reduction without a single error. -/
  | silentReduction
  /-- The machine was to read a length byte behind the end of its code. -/
  | truncatedPush
  /-- Data too long for every push form. -/
  | oversizedPush
deriving DecidableEq, Repr, Inhabited

/-- The text of an escape. -/
def Escape.message : Escape → Text
  | .exploded stage => Vocabulary.word stage ++ " exploded"
  | .ambiguousReduction => "A reduction must carry exactly one of bytecode or errors"
  | .silentReduction => "A failed reduction must carry at least one error"
  | .truncatedPush => "index out of range"
  | .oversizedPush => "int too big to convert"

end ScriptTemplate
