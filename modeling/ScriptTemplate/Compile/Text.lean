/-
# Compiling a text (`compile_body`)

A text passes through the three stages, and the first stage that fails ends it.  What the stages
before it produced is kept with the failure.

How a script that the text refers to is compiled is a parameter here; `Compile.Reference` supplies
it.
-/
import ScriptTemplate.Toolchain.Basic

namespace ScriptTemplate.Toolchain

variable {τ ρ σ : Type}

/-- The logger of the stages. -/
def stageLogger : Text := "pipeline"

/-- What the log says about a text that does not parse. -/
def unparsedNote (failure : ParseFailure) : Text :=
  "Parse failed at " ++ toString failure.position.line ++ ":"
    ++ toString failure.position.column

/-- What the log says about names that do not resolve. -/
def unresolvedNote (errors : Nat) : Text :=
  "Resolution produced " ++ toString errors ++ " error(s)"

/-- What the log says about a reduction that fails. -/
def unreducedNote (errors : Nat) : Text :=
  "Reduction produced " ++ toString errors ++ " error(s)"

/-- The reduce stage: the resolved tree to bytecode. -/
def reduceStage (T : Toolchain τ ρ σ) (env : Environment) (text : Text) (tree : τ)
    (resolved : ρ) : CompileM (Result τ ρ σ) := do
  CompileM.note (.reduce text env.capabilities)
  let reduction ← CompileM.ofExcept (T.reduce env.capabilities resolved)
  let artifacts := ⟨some tree, some resolved, some reduction⟩
  match reduction with
  | .bytecode bytecode _ => return .success { bytecode, artifacts }
  | .errors first others _ =>
    CompileM.log .debug stageLogger (unreducedNote (others.length + 1))
    return .failure { stage := .reduce, first, others, artifacts }

/-- The resolve stage, and what follows if every name resolves. -/
def resolveStage (T : Toolchain τ ρ σ) (data : Data) (env : Environment)
    (answer : Text → CompileM Verdict) (text : Text) (tree : τ) : CompileM (Result τ ρ σ) := do
  CompileM.note (.createResolver env.ancestry)
  CompileM.note (.resolve text)
  let resolved ← (T.resolve data env tree).run answer
  let errors := T.collect resolved
  CompileM.note (.collect text errors.length)
  match errors with
  | [] => T.reduceStage env text tree resolved
  | first :: others =>
    CompileM.log .debug stageLogger (unresolvedNote errors.length)
    return .failure {
      stage := .resolve, first, others
      artifacts := { parse := some tree, resolve := some resolved } }

/-- All stages of a text; `answer` compiles the scripts that it refers to. -/
def compileWith (T : Toolchain τ ρ σ) (data : Data) (env : Environment)
    (answer : Text → CompileM Verdict) (text : Text) : CompileM (Result τ ρ σ) := do
  CompileM.noteParse text
  match ← CompileM.ofExcept (T.parse text) with
  | .error failure =>
    CompileM.log .debug stageLogger (unparsedNote failure)
    return .failure { stage := .parse, first := failure.diagnostic }
  | .ok tree => T.resolveStage data env answer text tree

end ScriptTemplate.Toolchain
