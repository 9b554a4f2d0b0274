/-
# Making environments (`create_environment`, `for_scripts`)

The classifications of a new environment arrive as words.  All of them are checked when the
environment is made, map by map and entry by entry; the first bad entry is reported, and no
environment is made.  An environment that is made from another one passes through the same check.
-/
import ScriptTemplate.Environment
import ScriptTemplate.Vocabulary.Reading

namespace ScriptTemplate

/-- An entry whose value is not a word of its classification. -/
structure Misclassification where
  map : Text
  key : Text
  value : Json
  allowed : List Text
deriving Repr, Inhabited

/-- The text of a bad entry. -/
def Misclassification.message (m : Misclassification) : Text :=
  m.map ++ "[" ++ Text.quoted m.key ++ "]: " ++ m.value.inspect ++ " is not one of "
    ++ Text.join ", " (m.allowed.map Text.quoted)

/-- Reads the words of a map, up to the first bad entry. -/
def classify (α : Type) [Vocabulary α] (map : Text) :
    Dictionary Json → Except Misclassification (Dictionary α)
  | [] => .ok []
  | (key, value) :: rest =>
    match Vocabulary.ofJson? α value with
    | none => .error ⟨map, key, value, Vocabulary.words α⟩
    | some member => (classify α map rest).map ((key, member) :: ·)

/-- What an environment is made of. -/
structure EnvironmentSpec where
  scripts : Dictionary (Option Text) := []
  variableKinds : Dictionary Json := []
  lockingTypes : Dictionary Json := []
  unlocks : Dictionary (Option Text) := []
  timeLocks : Dictionary Json := []
  ancestry : List Text := []
  ceiling : Option Int := none
  capabilities : Capabilities := {}
deriving Repr, Inhabited

/-- The name of the map of variables. -/
def variablesMap : Text := "variables"

/-- The name of the map of locking types. -/
def lockingTypesMap : Text := "locking_script_types"

/-- The name of the map of time locks. -/
def timeLocksMap : Text := "unlocking_script_time_lock_types"

namespace Environment

/-- Makes an environment, if all of its classifications are words. -/
def ofSpec (spec : EnvironmentSpec) : Except Misclassification Environment := do
  let variableKinds ← classify VariableKind variablesMap spec.variableKinds
  let lockingTypes ← classify LockingType lockingTypesMap spec.lockingTypes
  let timeLocks ← classify TimeLock timeLocksMap spec.timeLocks
  return {
    scripts := spec.scripts, variableKinds, lockingTypes, unlocks := spec.unlocks, timeLocks
    ancestry := spec.ancestry, ceiling := spec.ceiling, capabilities := spec.capabilities }

/-- A map of members as it arrives: with words. -/
def worded {α : Type} [Vocabulary α] (entries : Dictionary α) : Dictionary Json :=
  entries.map fun entry => (entry.1, .str (Vocabulary.word entry.2))

/-- What an environment can be made of again. -/
def spec (env : Environment) : EnvironmentSpec where
  scripts := env.scripts
  variableKinds := worded env.variableKinds
  lockingTypes := worded env.lockingTypes
  unlocks := env.unlocks
  timeLocks := worded env.timeLocks
  ancestry := env.ancestry
  ceiling := env.ceiling
  capabilities := env.capabilities

/-- The environment inside a script, made anew: its classifications are read once more. -/
def descendClassified (env : Environment) (id : Text) : Except Misclassification Environment :=
  ofSpec { env.spec with ancestry := env.ancestry ++ [id] }

/-- An environment of its own for other scripts, whose variables arrive as words. -/
def deriveClassified (env : Environment) (scripts : Dictionary (Option Text))
    (variableKinds : Dictionary Json) (machine : Bool) : Except Misclassification Environment :=
  ofSpec {
    scripts, variableKinds, ceiling := env.ceiling
    capabilities := ⟨machine, env.capabilities.stateConstructor⟩ }

end Environment

end ScriptTemplate
