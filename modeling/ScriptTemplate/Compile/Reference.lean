/-
# Compiling a script by its id (`compile_raw`)

A script is looked up, and compiled in an environment whose ancestry is longer by its id.  The
scripts that it refers to are compiled the same way from there.  This ends, because the ancestry
never takes up an id twice: `Environment.pending` falls at every step down.
-/
import ScriptTemplate.Compile.Text
import ScriptTemplate.Text.Quoted

namespace ScriptTemplate.Toolchain

variable {τ ρ σ : Type}

/-- The logger of lookups. -/
def lookupLogger : Text := "resolver"

/-- What the log says about a refusal. -/
def refusalNote : Refusal → Text
  | .unknown id => "Unknown script ID " ++ Text.quoted id
  | .circular id ancestry =>
    "Circular dependency: " ++ Text.join " -> " ancestry ++ " -> " ++ id
  | .tooDeep id _ ceiling =>
    "Dependency depth " ++ toString ceiling ++ " exceeded compiling " ++ Text.quoted id

/-- What the log says about a script that is handed out. -/
def enteringNote (env : Environment) (id : Text) : Text :=
  "Compiling " ++ Text.quoted id ++ " (depth " ++ toString env.ancestry.length ++ ")"

/-- Reports a refusal: in the log, in the metrics if it is a cycle, and as a failure. -/
def refuse (refusal : Refusal) : CompileM (Result τ ρ σ) := do
  CompileM.log .warning lookupLogger (refusalNote refusal)
  match refusal with
  | .circular .. => CompileM.measure (·.countCycle)
  | _ => pure ()
  return .environmental refusal.message

/-- The trace inside a script. -/
def scriptTrace (env : Environment) (id : Text) : TraceChange :=
  { scriptId := some (.str id), depth := some (.int env.ancestry.length) }

/-- Compiles a script by its id, without locktime gate and transforms. -/
def compileReference (T : Toolchain τ ρ σ) (data : Data) (env : Environment) (id : Text) :
    CompileM (Result τ ρ σ) :=
  CompileM.within (scriptTrace env id) do
    match h : env.locate id with
    | .error refusal => refuse refusal
    | .ok text =>
      CompileM.log .debug lookupLogger (enteringNote env id)
      CompileM.measure (·.observeDepth (.int env.ancestry.length))
      have := Environment.pending_descend_lt h
      let inside := env.descend id
      T.compileWith data inside
        (fun other => do return (← T.compileReference data inside other).verdict) text
termination_by env.pending

/-- Compiles a text that has no id. -/
def compileText (T : Toolchain τ ρ σ) (data : Data) (env : Environment) (text : Text) :
    CompileM (Result τ ρ σ) :=
  T.compileWith data env (fun id => do return (← T.compileReference data env id).verdict) text

end ScriptTemplate.Toolchain
