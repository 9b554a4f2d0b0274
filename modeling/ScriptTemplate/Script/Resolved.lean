/-
# Resolved scripts (`resolve_identifier`, `collect_resolution_errors`)

Resolving puts bytecode in the place of every name.  A name is looked for among the opcodes, then
among the variables that hold bytecode, then among the scripts.  A name that fails leaves an error
in its place, and resolving goes on, so that all errors of a script come out together.
-/
import ScriptTemplate.Script.Node
import ScriptTemplate.Script.Opcode
import ScriptTemplate.Toolchain.Basic

namespace ScriptTemplate.Script

/-- A piece of a script whose names are resolved. -/
inductive Resolved
  | bytecode (value : Bytes) (range : SourceRange)
  | group (bracket : Bracket) (items : List Resolved) (range : SourceRange)
  | error (message : Text) (range : SourceRange)
deriving Repr, Inhabited

mutual

/-- Equality of resolved pieces is decided piece by piece. -/
def Resolved.decEq : (a b : Resolved) → Decidable (a = b)
  | .bytecode v r, .bytecode w q =>
    decidable_of_iff (v = w ∧ r = q) (by simp)
  | .error m r, .error n q =>
    decidable_of_iff (m = n ∧ r = q) (by simp)
  | .group b xs r, .group c ys q =>
    match Resolved.decEqList xs ys with
    | .isTrue h => decidable_of_iff (b = c ∧ r = q) (by simp [h])
    | .isFalse h => .isFalse (by simp [h])
  | .bytecode .., .error .. => .isFalse (by simp)
  | .bytecode .., .group .. => .isFalse (by simp)
  | .error .., .bytecode .. => .isFalse (by simp)
  | .error .., .group .. => .isFalse (by simp)
  | .group .., .bytecode .. => .isFalse (by simp)
  | .group .., .error .. => .isFalse (by simp)

/-- Equality of rows of resolved pieces. -/
def Resolved.decEqList : (as bs : List Resolved) → Decidable (as = bs)
  | [], [] => .isTrue rfl
  | [], _ :: _ => .isFalse (by simp)
  | _ :: _, [] => .isFalse (by simp)
  | a :: as, b :: bs =>
    match Resolved.decEq a b, Resolved.decEqList as bs with
    | .isTrue h, .isTrue k => .isTrue (by rw [h, k])
    | .isFalse h, _ => .isFalse (by simp [h])
    | _, .isFalse k => .isFalse (by simp [k])

end

instance : DecidableEq Resolved := Resolved.decEq

/-! ## Names -/

/-- What a name stands for. -/
inductive Meaning
  | opcode (value : UInt8)
  | value (value : Bytes)
  | missingValue (kind : VariableKind)
  | script
  | unknown
deriving DecidableEq, Repr, Inhabited

/-- Whether variables of a kind take their value from the compilation data. -/
def holdsBytecode : VariableKind → Bool
  | .addressData => true
  | .walletData => true
  | _ => false

/-- What a name stands for.  Opcodes come first, then variables that hold bytecode, then
scripts. -/
def meaning (data : Data) (env : Environment) (name : Text) : Meaning :=
  match opcode? name with
  | some value => .opcode value
  | none =>
    match (env.variableKinds.lookup name).filter holdsBytecode with
    | some kind =>
      match data.bytecode.lookup name with
      | some value => .value value
      | none => .missingValue kind
    | none => if env.hasScript name then .script else .unknown

/-- The message of a variable without a value. -/
def missingValueMessage (name : Text) (kind : VariableKind) : Text :=
  "Identifier \"" ++ name ++ "\" refers to " ++ Vocabulary.word kind ++ ", but \"" ++ name
    ++ "\" was not provided in the compilation data bytecode."

/-- The message of a script that does not compile. -/
def failedScriptMessage (name : Text) (errors : List Diagnostic) : Text :=
  "Compilation error in resolved script \"" ++ name ++ "\": "
    ++ Text.join "; " (errors.map (·.message))

/-- The message of a name that stands for nothing. -/
def unknownNameMessage (name : Text) : Text := "Unknown identifier \"" ++ name ++ "\"."

/-- The piece that a script's verdict leaves in the place of its name. -/
def ofVerdict (name : Text) (range : SourceRange) : Verdict → Resolved
  | .ok bytecode => .bytecode bytecode range
  | .error errors => .error (failedScriptMessage name errors) range

/-- Resolves a name. -/
def resolveName (data : Data) (env : Environment) (name : Text) (range : SourceRange) :
    Resolving Resolved :=
  match meaning data env name with
  | .opcode value => .done (.bytecode [value] range)
  | .value value => .done (.bytecode value range)
  | .missingValue kind => .done (.error (missingValueMessage name kind) range)
  | .script => .reference name fun verdict => .done (ofVerdict name range verdict)
  | .unknown => .done (.error (unknownNameMessage name) range)

mutual

/-- Resolves the names of a piece. -/
def Node.resolve (data : Data) (env : Environment) : Node → Resolving Resolved
  | .identifier name range => resolveName data env name range
  | .hex value range => .done (.bytecode value range)
  | .group bracket items range =>
    (resolveAll data env items).bind fun items => .done (.group bracket items range)

/-- Resolves the names of a row of pieces, from left to right. -/
def resolveAll (data : Data) (env : Environment) : List Node → Resolving (List Resolved)
  | [] => .done []
  | node :: rest =>
    (node.resolve data env).bind fun first =>
      (resolveAll data env rest).bind fun others => .done (first :: others)

end

/-! ## Errors -/

mutual

/-- The errors in a resolved piece, in order. -/
def Resolved.errors : Resolved → List Diagnostic
  | .bytecode .. => []
  | .group _ items _ => collectErrors items
  | .error message range => [⟨message, range⟩]

/-- The errors in a row of resolved pieces, in order. -/
def collectErrors : List Resolved → List Diagnostic
  | [] => []
  | piece :: rest => piece.errors ++ collectErrors rest

end

end ScriptTemplate.Script
