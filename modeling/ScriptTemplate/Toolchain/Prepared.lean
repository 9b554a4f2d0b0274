/-
# Prepared toolchains

A prepared toolchain is the standard one, except that for some texts it is laid down in advance
what each stage does: which scripts it asks for, which errors it reports, which bytecode it
yields, or at which stage it gives up.  It serves to drive the compiler through situations that no
text of the language brings about.
-/
import ScriptTemplate.Toolchain.Standard

namespace ScriptTemplate

/-- What the stages do with a text. -/
structure Preparation where
  parseFailure : Option ParseFailure := none
  /-- The scripts asked for, in order. -/
  references : List Text := []
  /-- Errors after those of the references. -/
  resolveErrors : List Diagnostic := []
  reduceErrors : Option (List Diagnostic) := none
  /-- Bytecode after that of the references. -/
  bytecode : Option Bytes := none
  /-- The stage that gives up. -/
  explodesAt : Option Stage := none
deriving DecidableEq, Repr, Inhabited

/-- A tree of a prepared toolchain: a prepared text, or a script. -/
inductive PreparedTree
  | prepared (text : Text) (plan : Preparation)
  | script (nodes : List Script.Node)
deriving DecidableEq, Repr, Inhabited

/-- What the references of a prepared text came to: their bytecode and errors, in order. -/
structure ReferenceSum where
  bytecode : Bytes := []
  errors : List Diagnostic := []
deriving DecidableEq, Repr, Inhabited

/-- Takes one more verdict into account. -/
def ReferenceSum.add (sum : ReferenceSum) : Verdict → ReferenceSum
  | .ok bytecode => { sum with bytecode := sum.bytecode ++ bytecode }
  | .error errors => { sum with errors := sum.errors ++ errors }

/-- A resolved tree of a prepared toolchain. -/
inductive PreparedResolved
  | prepared (text : Text) (plan : Preparation) (references : ReferenceSum)
  | script (pieces : List Script.Resolved)
deriving DecidableEq, Repr, Inhabited

namespace Preparation

/-- Asks for scripts one after the other and sums up what they come to. -/
def ask (sum : ReferenceSum) : List Text → Resolving ReferenceSum
  | [] => .done sum
  | id :: rest => .reference id fun verdict => ask (sum.add verdict) rest

/-- Gives up if the plan says so for a stage. -/
def guarded {α : Type} (plan : Preparation) (stage : Stage) (outcome : Except Escape α) :
    Except Escape α :=
  if plan.explodesAt = some stage then .error (.exploded stage) else outcome

/-- The reduction that the plan calls for. -/
def reduction (plan : Preparation) (references : ReferenceSum) :
    Except Escape (Reduction Machine.State) :=
  let bytecode :=
    if plan.bytecode.isSome || plan.reduceErrors.isNone then
      some (references.bytecode ++ plan.bytecode.getD [])
    else none
  Reduction.ofParts bytecode plan.reduceErrors none

end Preparation

/-- Plans by text, and maybe one for all other texts. -/
structure Plans where
  byText : Dictionary Preparation
  fallback : Option Preparation

/-- The plan for a text. -/
def Plans.find? (plans : Plans) (text : Text) : Option Preparation :=
  (plans.byText.lookup text).or plans.fallback

/-- The toolchain that follows plans where there are any. -/
def Toolchain.prepared (plans : Plans) :
    Toolchain PreparedTree PreparedResolved Machine.State where
  parse text :=
    match plans.find? text with
    | none => (standard.parse text).map fun outcome => outcome.map .script
    | some plan => plan.guarded .parse <| .ok <|
      match plan.parseFailure with
      | some failure => .error failure
      | none => .ok (.prepared text plan)
  resolve data env
    | .script nodes => (standard.resolve data env nodes).bind fun pieces => .done (.script pieces)
    | .prepared text plan =>
      if plan.explodesAt = some .resolve then .fail (.exploded .resolve)
      else (Preparation.ask {} plan.references).bind fun sum => .done (.prepared text plan sum)
  collect
    | .script pieces => standard.collect pieces
    | .prepared _ plan sum => sum.errors ++ plan.resolveErrors
  reduce capabilities
    | .script pieces => standard.reduce capabilities pieces
    | .prepared _ plan sum => plan.guarded .reduce (plan.reduction sum)

end ScriptTemplate
