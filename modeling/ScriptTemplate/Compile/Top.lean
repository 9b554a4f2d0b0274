/-
# Top-level compilation (`compile_script`)

The locktime gate, the script, its transform: in this order, under one compilation id, with the
outcome counted and logged at the end.  A compilation that escapes is neither counted nor logged.
-/
import ScriptTemplate.Compile.Transform

namespace ScriptTemplate.Toolchain

variable {τ ρ σ : Type}

/-- The logger of outcomes. -/
def outcomeLogger : Text := "compiler"

/-- The gate, the script and its transform. -/
def compileGated (T : Toolchain τ ρ σ) (data : Data) (env : Environment) (id : Text) :
    CompileM (Result τ ρ σ) := do
  match ← checkLocktime data env id with
  | some mismatch => return mismatch
  | none =>
    match ← T.compileReference data env id with
    | .failure outcome => return .failure outcome
    | .success raw => T.applyTransform data env id raw

/-- What the log says about an outcome. -/
def outcomeNote (id : Text) : Result τ ρ σ → Text
  | .success outcome =>
    let marker := match outcome.transform with
      | some transform => " (" ++ Vocabulary.word transform ++ ")"
      | none => ""
    "Compiled " ++ Text.quoted id ++ ": " ++ toString outcome.bytecode.length ++ " byte(s)"
      ++ marker
  | .failure outcome =>
    "Compiling " ++ Text.quoted id ++ " failed at " ++ Vocabulary.word outcome.stage
      ++ " stage with " ++ toString outcome.errors.length ++ " error(s)"

/-- Counts and logs an outcome. -/
def reportOutcome (id : Text) (seconds : Float) (result : Result τ ρ σ) : CompileM Unit := do
  CompileM.measure
    (·.record result.label (.float seconds) (result.transform?.map Vocabulary.word))
  CompileM.log .info outcomeLogger (outcomeNote id result)

/-- Compiles a script by its id, with locktime gate and transform. -/
def compile (T : Toolchain τ ρ σ) (data : Data) (env : Environment) (id : Text) :
    CompileM (Result τ ρ σ) := do
  let compilationId ← CompileM.compilationId
  CompileM.within { compilationId := some (some compilationId) } do
    let started ← CompileM.readClock
    let result ← T.compileGated data env id
    let finished ← CompileM.readClock
    reportOutcome id (finished - started) result
    return result

end ScriptTemplate.Toolchain
