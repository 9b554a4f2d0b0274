/-
# Compilers (`ScriptCompiler`, `create_compiler`)

A compiler is a toolchain with an environment and settings.  A depth in the settings becomes the
ceiling of the environment, unless the environment has one of its own.
-/
import ScriptTemplate.Compile.Top
import ScriptTemplate.Settings

namespace ScriptTemplate

/-- A toolchain bound to an environment. -/
structure Compiler (τ ρ σ : Type) where
  toolchain : Toolchain τ ρ σ
  environment : Environment
  settings : Settings

/-- The text of the refusal to take both an environment and fields for one. -/
def environmentTwiceMessage : Text :=
  "Pass either an environment or environment fields, not both"

/-- The environment under the ceiling of the settings. -/
def Environment.withSettings (env : Environment) (settings : Settings) : Environment :=
  match settings.maxDepth, env.ceiling with
  | some depth, none => { env with ceiling := some depth }
  | _, _ => env

namespace Compiler

variable {τ ρ σ : Type}

/-- Binds a toolchain to an environment. -/
def create (toolchain : Toolchain τ ρ σ) (env : Environment) (settings : Settings) :
    Compiler τ ρ σ :=
  ⟨toolchain, env.withSettings settings, settings⟩

/-- Compiles with locktime gate and transform. -/
def compile (c : Compiler τ ρ σ) (data : Data) (id : Text) : CompileM (Result τ ρ σ) :=
  c.toolchain.compile data c.environment id

/-- Compiles a script as it is written. -/
def compileReference (c : Compiler τ ρ σ) (data : Data) (id : Text) :
    CompileM (Result τ ρ σ) :=
  c.toolchain.compileReference data c.environment id

/-- Compiles a text that is not in the environment. -/
def compileText (c : Compiler τ ρ σ) (data : Data) (text : Text) : CompileM (Result τ ρ σ) :=
  c.toolchain.compileText data c.environment text

/-- Compiles to bytecode, or reports the failure in one line. -/
def bytecode (c : Compiler τ ρ σ) (data : Data) (id : Text) :
    CompileM (Except Text Bytes) := do
  match ← c.compile data id with
  | .success outcome => return .ok outcome.bytecode
  | .failure outcome => return .error (outcome.report id)

end Compiler

end ScriptTemplate
