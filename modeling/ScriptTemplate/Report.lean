/-
# Outcomes as JSON (`to_dict`)

The form in which an outcome leaves the program: bytecode in hexadecimal, or the failing stage with
all errors and their places.  Artifacts are not part of it.
-/
import ScriptTemplate.Json.Printer
import ScriptTemplate.Outcome

namespace ScriptTemplate

/-- A range as an object. -/
def SourceRange.toJson (r : SourceRange) : Json :=
  .obj [("startLineNumber", .int r.startLine), ("startColumn", .int r.startColumn),
    ("endLineNumber", .int r.endLine), ("endColumn", .int r.endColumn)]

/-- A diagnostic as an object. -/
def Diagnostic.toJson (d : Diagnostic) : Json :=
  .obj [("error", .str d.message), ("range", d.range.toJson)]

variable {τ ρ σ : Type}

/-- A success as an object; the transform appears only if there is one. -/
def Success.toJson (outcome : Success τ ρ σ) : Json :=
  let transform : List (Text × Json) := match outcome.transform with
    | some transform => [("transformed", .str (Vocabulary.word transform))]
    | none => []
  .obj (("success", .bool true) :: ("bytecode", .str outcome.bytecode.toHex) :: transform)

/-- A failure as an object. -/
def Failure.toJson (outcome : Failure τ ρ σ) : Json :=
  .obj [("success", .bool false), ("errorType", .str (Vocabulary.word outcome.stage)),
    ("errors", .arr (outcome.errors.map (·.toJson)))]

/-- An outcome as an object. -/
def Result.toJson : Result τ ρ σ → Json
  | .success outcome => outcome.toJson
  | .failure outcome => outcome.toJson

/-- An error on a line of its own: the place if it has one, and the message. -/
def Diagnostic.line (d : Diagnostic) : Text :=
  let place :=
    if d.range.isEmpty then ""
    else toString d.range.startLine ++ ":" ++ toString d.range.startColumn ++ ": "
  "  " ++ place ++ d.message

/-- A failure for the reader: a heading and a line for each error. -/
def Failure.lines (outcome : Failure τ ρ σ) : List Text :=
  ("Compilation failed (" ++ Vocabulary.word outcome.stage ++ "):")
    :: outcome.errors.map (·.line)

end ScriptTemplate
