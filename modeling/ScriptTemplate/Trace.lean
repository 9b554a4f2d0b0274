/-
# The compilation trace (`CompilationTrace`, `LogContext`)

The trace says where a compilation is at the moment: under which compilation id, in which script
and at which depth.  A compilation sets the script to its id and the depth to a number; whoever
opens a scope may set them to any value.

A scope narrows the trace for a while.  Entering a scope keeps the trace that held before; leaving
puts that trace back, whatever was changed in between.

A scope can be entered again after it was left, and then keeps a new trace.  Leaving it twice
after one entry is a mistake; leaving it before any entry changes nothing.
-/
import ScriptTemplate.Json.Basic

namespace ScriptTemplate

/-- Where in a compilation the current work is done. -/
structure Trace where
  compilationId : Option Text := none
  /-- The script; null outside of all scripts. -/
  scriptId : Json := .null
  depth : Json := .int 0
deriving Repr, Inhabited

/-- The fields of a trace that a scope sets; a field left out keeps its value. -/
structure TraceChange where
  compilationId : Option (Option Text) := none
  scriptId : Option Json := none
  depth : Option Json := none
deriving Repr, Inhabited

/-- A compilation id that is empty counts as none. -/
def normalizedId : Option Text → Option Text
  | some id => if id.isEmpty then none else some id
  | none => none

/-- The trace after a change. -/
def Trace.change (trace : Trace) (change : TraceChange) : Trace where
  compilationId := (change.compilationId.map normalizedId).getD trace.compilationId
  scriptId := change.scriptId.getD trace.scriptId
  depth := change.depth.getD trace.depth

/-- The trace under another compilation id. -/
def Trace.withCompilationId (trace : Trace) (id : Option Text) : Trace :=
  { trace with compilationId := normalizedId id }

/-- How far a scope has come. -/
inductive ScopeState
  | idle
  /-- Entered; the trace that held before is kept. -/
  | entered (before : Trace)
  | left
deriving Repr, Inhabited

/-- A change of the trace that can be entered and left. -/
structure Scope where
  change : TraceChange
  state : ScopeState := .idle
deriving Repr, Inhabited

namespace Scope

/-- Enters a scope, for the first time or again. -/
def enter (scope : Scope) (trace : Trace) : Scope × Trace :=
  ({ scope with state := .entered trace }, trace.change scope.change)

/-- Leaves a scope; none if it was left already. -/
def leave? (scope : Scope) (trace : Trace) : Option (Scope × Trace) :=
  match scope.state with
  | .idle => some (scope, trace)
  | .entered before => some ({ scope with state := .left }, before)
  | .left => none

/-- **Leaving undoes everything since the entry.** -/
@[simp] theorem leave?_enter (scope : Scope) (before now : Trace) :
    (scope.enter before).1.leave? now = some ({ scope with state := .left }, before) := rfl

end Scope

end ScriptTemplate
