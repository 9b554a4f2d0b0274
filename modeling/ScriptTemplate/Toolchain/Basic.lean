/-
# Toolchains (`ScriptToolchain`)

A toolchain supplies the three stages: parse a text, resolve the names in its tree, reduce the
resolved tree to bytecode.  The compiler looks inside none of the trees.

Resolving may need other scripts.  A resolver does not compile them itself: it is a `Resolving`,
which is finished, or gives up, or asks for a script by id and goes on with what it learns.  A
`Resolving` is a finite tree, so a resolver asks finitely often on every way through it; the
compiler answers.

Three things are left out of a toolchain here.

* The stages are pure.  A stage writes no log, sets no trace and measures nothing of its own; only
  the compiler does, and the scripts that a resolver asks for.
* Creating a resolver (`create_resolver`) and collecting errors (`collect_resolution_errors`) never
  give up.  A toolchain that gives up there is taken for one that gives up resolving: the call ends
  without a result all the same, and only the journal differs, which then has the call that resolves
  and none that collects.
* A resolver learns the bytecode or the errors of a script, although compiling it gives the whole
  result.  A resolver that looks at the artifacts of a script, or at the stage that it failed at, is
  none of these.
-/
import ScriptTemplate.Ambient
import ScriptTemplate.Data
import ScriptTemplate.Environment
import ScriptTemplate.Outcome
import ScriptTemplate.ParseFailure

namespace ScriptTemplate

/-- What a resolver learns of a script that it asked for: the bytecode, or the errors. -/
abbrev Verdict := Except (List Diagnostic) Bytes

/-- A resolver at work. -/
inductive Resolving (α : Type)
  | done (value : α)
  | fail (escape : Escape)
  | reference (id : Text) (next : Verdict → Resolving α)

namespace Resolving

variable {α β : Type}

/-- Goes on after a resolver is done. -/
def bind : Resolving α → (α → Resolving β) → Resolving β
  | .done value, next => next value
  | .fail escape, _ => .fail escape
  | .reference id ask, next => .reference id fun verdict => (ask verdict).bind next

instance : Monad Resolving where
  pure := .done
  bind := bind

/-- Does a resolver's work, each question being answered by a step. -/
def run (answer : Text → CompileM Verdict) : Resolving α → CompileM α
  | .done value => pure value
  | .fail escape => CompileM.ofExcept (.error escape)
  | .reference id next => answer id >>= fun verdict => (next verdict).run answer

@[simp] theorem run_done (answer : Text → CompileM Verdict) (value : α) :
    (Resolving.done value).run answer = pure value := rfl

/-- **Work in two parts runs in two parts.** -/
theorem run_bind (answer : Text → CompileM Verdict) (r : Resolving α)
    (next : α → Resolving β) :
    (r >>= next).run answer = r.run answer >>= fun value => (next value).run answer := by
  induction r with
  | done value => rfl
  | fail escape => rfl
  | reference id ask ih =>
    show (answer id >>= fun verdict => ((ask verdict).bind next).run answer) = _
    simp only [run, bind_assoc]
    congr 1
    funext verdict
    exact ih verdict

end Resolving

/-- The stages of a script language: `τ` are its trees, `ρ` its resolved trees, `σ` the states that
its reductions keep. -/
structure Toolchain (τ ρ σ : Type) where
  /-- The tree of a text, or where the text went wrong. -/
  parse : Text → Except Escape (Except ParseFailure τ)
  /-- Resolves the names of a tree. -/
  resolve : Data → Environment → τ → Resolving ρ
  /-- The errors in a resolved tree, in order. -/
  collect : ρ → List Diagnostic
  /-- Folds a resolved tree into bytecode. -/
  reduce : Capabilities → ρ → Except Escape (Reduction σ)

end ScriptTemplate
