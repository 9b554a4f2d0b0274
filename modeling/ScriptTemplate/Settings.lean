/-
# Settings (`CompilerConfig`, `load_config`)

Settings are given directly or read from environment variables.  Blanks around a variable's value
do not count, and a variable that is empty counts as not set.  Faults are found in a fixed order:
the numeral of the depth, the word for the log format, then the depth and the level themselves.
-/
import ScriptTemplate.Dictionary
import ScriptTemplate.Log.Record
import ScriptTemplate.Text.Integer
import ScriptTemplate.Text.Quoted

namespace ScriptTemplate

/-- Why settings are refused. -/
inductive SettingsFault
  | depthNotInteger (text : Text)
  | formatNotBoolean (text : Text)
  | depthTooSmall
  | unknownLevel (name : Text)
deriving DecidableEq, Repr, Inhabited

namespace Settings

/-- The variable that holds the depth. -/
def depthVariable : Text := "AUTHSCRIPT_MAX_DEPTH"

/-- The variable that holds the log level. -/
def levelVariable : Text := "AUTHSCRIPT_LOG_LEVEL"

/-- The variable that holds the log format. -/
def formatVariable : Text := "AUTHSCRIPT_LOG_JSON"

/-- The level that counts where none is given. -/
def defaultLevel : Text := "WARNING"

end Settings

/-- The text of a fault. -/
def SettingsFault.message : SettingsFault → Text
  | .depthNotInteger text =>
    Settings.depthVariable ++ " must be an integer, got " ++ Text.quoted text
  | .formatNotBoolean text =>
    Settings.formatVariable ++ " must be a boolean, got " ++ Text.quoted text
  | .depthTooSmall => "max_dependency_depth must be at least 1"
  | .unknownLevel name => "Unknown log level: " ++ name

/-- Settings of a compiler and of the command line. -/
structure Settings where
  /-- The ceiling on script depth, if any. -/
  maxDepth : Option Int := none
  /-- The name of the log level, as it was given. -/
  logLevel : Text := Settings.defaultLevel
  logJson : Bool := false
deriving DecidableEq, Repr, Inhabited

namespace Settings

/-- Makes settings: a depth is at least one, and the level has to be known. -/
def make (maxDepth : Option Int) (logLevel : Text) (logJson : Bool) :
    Except SettingsFault Settings :=
  if maxDepth.any (· < 1) then .error .depthTooSmall
  else if (Log.Level.ofName? logLevel).isNone then .error (.unknownLevel logLevel)
  else .ok ⟨maxDepth, logLevel, logJson⟩

/-- The value of a variable without the blanks around it; empty if it is not set. -/
def valueOf (environ : Dictionary Text) (name : Text) : Text :=
  Text.trimmed Text.isBlank ((environ.lookup name).getD "")

/-- Words for yes. -/
def trueWords : List Text := ["1", "true", "yes", "on"]

/-- Words for no; the empty one is for a variable that is not set. -/
def falseWords : List Text := ["0", "false", "no", "off", ""]

/-- The depth that a variable gives. -/
def readDepth (text : Text) : Except SettingsFault (Option Int) :=
  if text.isEmpty then .ok none
  else
    match Text.integer text with
    | .ok n => .ok (some n)
    | .error _ => .error (.depthNotInteger text)

/-- The log format that a variable gives, in any case. -/
def readFormat (text : Text) : Except SettingsFault Bool :=
  let word := Text.lower text
  if trueWords.contains word then .ok true
  else if falseWords.contains word then .ok false
  else .error (.formatNotBoolean word)

/-- Settings from environment variables. -/
def load (environ : Dictionary Text) : Except SettingsFault Settings := do
  let depth ← readDepth (valueOf environ depthVariable)
  let json ← readFormat (valueOf environ formatVariable)
  let level := valueOf environ levelVariable
  make depth (if level.isEmpty then defaultLevel else level) json

/-- The sink for the log that the settings ask for. -/
def sink (settings : Settings) (verbose : Bool) : Log.Sink where
  threshold :=
    if verbose then .debug else (Log.Level.ofName? settings.logLevel).getD .warning
  layout := if settings.logJson then .json else .readable

end Settings

end ScriptTemplate
