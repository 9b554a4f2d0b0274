/-
# Log levels

A level is a number.  Six numbers have a name, and two of the names have a second spelling.
Level zero means that nothing was set; the level for warnings counts then.
-/
import ScriptTemplate.Json.Printer
import ScriptTemplate.Text.Case

namespace ScriptTemplate.Log

/-- How much a record matters. -/
abbrev Level := Int

namespace Level

/-- Details of each step. -/
def debug : Level := 10

/-- The outcome of each compilation. -/
def info : Level := 20

/-- What a user should look at. -/
def warning : Level := 30

/-- The spellings of each level; the first is used in output. -/
def spellings : List (Level × List Text) := [
  (50, ["CRITICAL", "FATAL"]), (40, ["ERROR"]), (30, ["WARNING", "WARN"]), (20, ["INFO"]),
  (10, ["DEBUG"]), (0, ["NOTSET"])]

/-- The level that a name in upper case stands for. -/
def ofUpperName? (name : Text) : Option Level :=
  spellings.findSome? fun (level, names) => if names.contains name then some level else none

/-- The level that a name in any case stands for. -/
def ofName? (name : Text) : Option Level := ofUpperName? (Text.upper name)

/-- The text of the refusal of a name that no level has. -/
def unknownMessage (name : Text) : Text := "Unknown level: " ++ Text.quoted (Text.upper name)

/-- The name of a level. -/
def name (level : Level) : Text :=
  match spellings.lookup level with
  | some (first :: _) => first
  | _ => "Level " ++ toString level

/-- The level that a value equals; doubles can equal one. -/
def ofJson? : Json → Option Level
  | .number (.int n) => some n
  | .bool value => some (if value then 1 else 0)
  | .number (.float x) =>
    spellings.findSome? fun (level, _) => if Number.floatOfInt level == x then some level else none
  | _ => none

/-- How a record is labelled whose level is given by a value.  It may be given by its name, and is
then labelled by its number. -/
def label (value : Json) : Json :=
  match value, (ofJson? value).bind fun level => spellings.lookup level with
  | _, some (first :: _) => .str first
  | .str name, _ =>
    match ofUpperName? name with
    | some level => .int level
    | none => .str ("Level " ++ name)
  | value, _ => .str ("Level " ++ value.display)

/-- The least level that is written when this one is set. -/
def effective (level : Level) : Level := if level = 0 then warning else level

/-- Whether a record of one level is written when another is set.  Records below level one are
never written. -/
def passes (level threshold : Level) : Bool := 0 < level && threshold.effective ≤ level

end Level

end ScriptTemplate.Log
