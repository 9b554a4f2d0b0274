/-
# Environment documents (`EnvironmentDocument`)

The document form of an environment: scripts, variables and classifications, without the
capabilities of a machine.
-/
import ScriptTemplate.Document.Field
import ScriptTemplate.Environment

namespace ScriptTemplate.Document

/-- The document form of an environment. -/
structure EnvironmentDocument where
  scripts : Dictionary Text
  variableKinds : Dictionary VariableKind
  lockingTypes : Dictionary LockingType
  unlocks : Dictionary Text
  timeLocks : Dictionary TimeLock
deriving DecidableEq, Repr, Inhabited

namespace EnvironmentDocument

/-- The name of the record. -/
def record : Text := "EnvironmentDocument"

/-- The field of scripts. -/
def scriptsField : Field := .plain "scripts"

/-- The field of variables. -/
def variablesField : Field := .plain "variables"

/-- The field of locking types. -/
def lockingTypesField : Field := ⟨"locking_script_types", "lockingScriptTypes"⟩

/-- The field that says which script an unlocking script unlocks. -/
def unlocksField : Field := ⟨"unlocking_scripts", "unlockingScripts"⟩

/-- The field of time locks. -/
def timeLocksField : Field :=
  ⟨"unlocking_script_time_lock_types", "unlockingScriptTimeLockTypes"⟩

/-- All fields, in the order in which their problems are reported. -/
def fields : List Field :=
  [scriptsField, variablesField, lockingTypesField, unlocksField, timeLocksField]

/-- Scripts are texts, and there is at least one. -/
def scriptsValue (value : Json) : Checked (Dictionary Text) := do
  match ← dictionaryValue textValue value with
  | [] => .fail (.refused "environment must define at least one script")
  | scripts => return scripts

/-- Checks the fields of a document. -/
def ofFields (given : Dictionary Json) : Checked EnvironmentDocument :=
  let scripts := scriptsField.required given scriptsValue
  let variableKinds := variablesField.optional given [] (dictionaryValue (wordValue VariableKind))
  let lockingTypes :=
    lockingTypesField.optional given [] (dictionaryValue (wordValue LockingType))
  let unlocks := unlocksField.optional given [] (dictionaryValue textValue)
  let timeLocks := timeLocksField.optional given [] (dictionaryValue (wordValue TimeLock))
  let checks := scripts.both <| variableKinds.both <| lockingTypes.both <| unlocks.both <|
    timeLocks.both (noOthers fields given)
  wellNamed given <| checks.map fun (scripts, variableKinds, lockingTypes, unlocks, timeLocks, _) =>
    { scripts, variableKinds, lockingTypes, unlocks, timeLocks }

/-- Reads a document. -/
def ofJson (value : Json) : Except Invalid EnvironmentDocument :=
  let checked : Checked EnvironmentDocument := match value with
    | .obj given => ofFields given
    | _ => .fail (.notRecord record)
  checked.asRecord record

/-- The environment of a document, with given capabilities. -/
def toEnvironment (document : EnvironmentDocument) (capabilities : Capabilities) : Environment :=
  { scripts := document.scripts.map fun (id, text) => (id, some text)
    variableKinds := document.variableKinds
    lockingTypes := document.lockingTypes
    unlocks := document.unlocks.map fun (id, locking) => (id, some locking)
    timeLocks := document.timeLocks
    capabilities }

end EnvironmentDocument

end ScriptTemplate.Document
