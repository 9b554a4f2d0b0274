/-
# Outcomes (`CompilationSuccess`, `CompilationFailure`, `ScriptReduction`)

A compilation succeeds with bytecode or fails at a stage.  A failure has a first error and maybe
others, so it cannot be without one; a reduction that failed likewise.  Both kinds of outcome
carry what the stages produced: the tree, the resolved tree and the reduction.

The three types of these artifacts belong to the toolchain, so they are parameters throughout:
`τ` for trees, `ρ` for resolved trees, `σ` for the states that a reduction kept.
-/
import ScriptTemplate.Bytes
import ScriptTemplate.Escape
import ScriptTemplate.Source
import ScriptTemplate.Vocabulary

namespace ScriptTemplate

/-- The outcome of reducing a resolved tree: bytecode, or errors. -/
inductive Reduction (σ : Type)
  | bytecode (value : Bytes) (states : Option (List σ))
  | errors (first : Diagnostic) (others : List Diagnostic) (states : Option (List σ))
deriving DecidableEq, Repr, Inhabited

namespace Reduction

variable {σ : Type}

/-- The reduction with the given parts.  There has to be bytecode or a list of errors and not
both, and the list must not be empty. -/
def ofParts (bytecode : Option Bytes) (errors : Option (List Diagnostic))
    (states : Option (List σ)) : Except Escape (Reduction σ) :=
  match bytecode, errors with
  | some value, none => .ok (.bytecode value states)
  | none, some (first :: others) => .ok (.errors first others states)
  | none, some [] => .error .silentReduction
  | none, none => .error .ambiguousReduction
  | some _, some _ => .error .ambiguousReduction

/-- The bytecode of a reduction that succeeded. -/
def bytecode? : Reduction σ → Option Bytes
  | .bytecode value _ => some value
  | .errors .. => none

/-- The errors of a reduction that failed. -/
def errors? : Reduction σ → Option (List Diagnostic)
  | .bytecode .. => none
  | .errors first others _ => some (first :: others)

/-- The states that the reduction kept. -/
def states : Reduction σ → Option (List σ)
  | .bytecode _ states => states
  | .errors _ _ states => states

end Reduction

/-- What the stages produced, as far as they were reached. -/
structure Artifacts (τ ρ σ : Type) where
  parse : Option τ := none
  resolve : Option ρ := none
  reduce : Option (Reduction σ) := none
deriving DecidableEq, Repr, Inhabited

/-- A compilation that succeeded.  After a transform the artifacts are those of the script as it
was written. -/
structure Success (τ ρ σ : Type) where
  bytecode : Bytes
  artifacts : Artifacts τ ρ σ := {}
  transform : Option Transform := none
deriving DecidableEq, Repr, Inhabited

/-- A compilation that failed. -/
structure Failure (τ ρ σ : Type) where
  stage : Stage
  first : Diagnostic
  others : List Diagnostic := []
  artifacts : Artifacts τ ρ σ := {}
deriving DecidableEq, Repr, Inhabited

/-- The outcome of a compilation. -/
inductive Result (τ ρ σ : Type)
  | success (outcome : Success τ ρ σ)
  | failure (outcome : Failure τ ρ σ)
deriving DecidableEq, Repr, Inhabited

variable {τ ρ σ : Type}

namespace Failure

/-- All errors, in order. -/
def errors (failure : Failure τ ρ σ) : List Diagnostic := failure.first :: failure.others

/-- The failure with the given errors; there is none without an error. -/
def ofErrors? (stage : Stage) (artifacts : Artifacts τ ρ σ) :
    List Diagnostic → Option (Failure τ ρ σ)
  | [] => none
  | first :: others => some ⟨stage, first, others, artifacts⟩

/-- The text of the refusal to make a failure of no errors. -/
def withoutErrorsMessage : Text := "A failed compilation must carry at least one error"

/-- The one-line report of a failure: the script, the stage, the first error and how many more
there are. -/
def report (failure : Failure τ ρ σ) (id : Text) : Text :=
  let more :=
    if failure.others.isEmpty then ""
    else " (+" ++ toString failure.others.length ++ " more)"
  "Compiling \"" ++ id ++ "\" failed at the " ++ Vocabulary.word failure.stage ++ " stage: "
    ++ failure.first.message ++ more

end Failure

namespace Result

/-- A failure that precedes parsing: it counts as a parse failure and has no place. -/
def environmental (message : Text) : Result τ ρ σ :=
  .failure { stage := .parse, first := ⟨message, SourceRange.empty⟩ }

/-- What a script that refers to this one learns: the bytecode, or the errors. -/
def verdict : Result τ ρ σ → Except (List Diagnostic) Bytes
  | .success outcome => .ok outcome.bytecode
  | .failure outcome => .error outcome.errors

/-- Whether the compilation succeeded. -/
def succeeded : Result τ ρ σ → Bool
  | .success _ => true
  | .failure _ => false

/-- The artifacts of either outcome. -/
def artifacts : Result τ ρ σ → Artifacts τ ρ σ
  | .success outcome => outcome.artifacts
  | .failure outcome => outcome.artifacts

/-- The label under which an outcome is counted: the failing stage, or a word for success. -/
def label : Result τ ρ σ → Text
  | .success _ => "success"
  | .failure outcome => Vocabulary.word outcome.stage

/-- The transform that an outcome carries. -/
def transform? : Result τ ρ σ → Option Transform
  | .success outcome => outcome.transform
  | .failure _ => none

end Result

end ScriptTemplate
