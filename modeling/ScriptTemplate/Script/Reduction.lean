/-
# Reducing a resolved script (`reduce`)

Bytecode stands for itself, a push group for the push of its bytecode, and an evaluation for the
top item that the machine leaves after running its bytecode.  What is collected on the way (output,
errors, final machine states) is gathered from left to right and from the inside out, so an
evaluation comes after those inside it.

An evaluation that fails contributes nothing to the output, and reducing goes on.
-/
import ScriptTemplate.Machine.Basic
import ScriptTemplate.Machine.Push
import ScriptTemplate.Script.Resolved

namespace ScriptTemplate.Script

/-- What reducing has gathered. -/
structure Gathered where
  output : Bytes := []
  errors : List Diagnostic := []
  states : List Machine.State := []
deriving DecidableEq, Repr, Inhabited

namespace Gathered

/-- What two neighbouring pieces gather. -/
def append (a b : Gathered) : Gathered :=
  ⟨a.output ++ b.output, a.errors ++ b.errors, a.states ++ b.states⟩

instance : Append Gathered := ⟨append⟩

@[simp] theorem output_append (a b : Gathered) : (a ++ b).output = a.output ++ b.output := rfl

@[simp] theorem errors_append (a b : Gathered) : (a ++ b).errors = a.errors ++ b.errors := rfl

@[simp] theorem states_append (a b : Gathered) : (a ++ b).states = a.states ++ b.states := rfl

end Gathered

/-- The message of an evaluation that has no machine to run on. -/
def noMachineMessage : Text := "Evaluations require a virtual machine."

/-- The message of an evaluation that leaves nothing. -/
def nothingLeftMessage : Text := "An evaluation must leave an item on the stack."

/-- What the final state of an evaluation comes to: its top item, or why there is none. -/
def evaluated (state : Machine.State) : Except Text Bytes :=
  match state.fault, state.stack with
  | some fault, _ => .error ("Failed to reduce evaluation: " ++ fault.message)
  | none, [] => .error nothingLeftMessage
  | none, top :: _ => .ok top

/-- Closes a push group: what is inside is pushed. -/
def closePush (inner : Gathered) : Except Escape Gathered :=
  if inner.output.length < Push.sizeLimit then
    .ok { inner with output := Push.encode inner.output }
  else .error .oversizedPush

/-- Closes an evaluation: what is inside is run. -/
def closeEvaluation (capabilities : Capabilities) (range : SourceRange) (inner : Gathered) :
    Except Escape Gathered :=
  if capabilities.canEvaluate then
    match Machine.run [] inner.output with
    | none => .error .truncatedPush
    | some state =>
      let states := inner.states ++ [state]
      match evaluated state with
      | .ok top => .ok ⟨top, inner.errors, states⟩
      | .error message => .ok ⟨[], inner.errors ++ [⟨message, range⟩], states⟩
  else .ok ⟨[], inner.errors ++ [⟨noMachineMessage, range⟩], inner.states⟩

/-- Closes a group. -/
def closeGroup (capabilities : Capabilities) (bracket : Bracket) (range : SourceRange)
    (inner : Gathered) : Except Escape Gathered :=
  match bracket with
  | .push => closePush inner
  | .evaluation => closeEvaluation capabilities range inner

mutual

/-- What a resolved piece gathers.  That a piece in error gathers nothing is a convention: it has
neither bytecode nor items, and a reducer that meets it gives up.  No text comes to that, since its
errors are collected first and it is reduced only if there are none (`Toolchain.resolveStage`). -/
def Resolved.gather (capabilities : Capabilities) : Resolved → Except Escape Gathered
  | .bytecode value _ => .ok { output := value }
  | .error .. => .ok {}
  | .group bracket items range => do
    closeGroup capabilities bracket range (← gatherAll capabilities items)

/-- What a row of resolved pieces gathers. -/
def gatherAll (capabilities : Capabilities) : List Resolved → Except Escape Gathered
  | [] => .ok {}
  | piece :: rest => do
    let first ← piece.gather capabilities
    let others ← gatherAll capabilities rest
    return first ++ others

end

/-- The reduction of what was gathered: the errors if there are any, else the output. -/
def Gathered.reduction (gathered : Gathered) : Reduction Machine.State :=
  match gathered.errors with
  | [] => .bytecode gathered.output (some gathered.states)
  | first :: others => .errors first others (some gathered.states)

/-- Reduces a resolved script. -/
def reduce (capabilities : Capabilities) (pieces : List Resolved) :
    Except Escape (Reduction Machine.State) :=
  (gatherAll capabilities pieces).map Gathered.reduction

end ScriptTemplate.Script
