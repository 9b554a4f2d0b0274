/-
# JSON values

An object keeps its fields in the order in which they were given, and that order is part of the
value: the first bad entry of a document is the one that is reported.  A field given twice keeps
its first place and its last value, so a field name occurs once.
-/
import ScriptTemplate.Number.Basic

namespace ScriptTemplate

/-- A JSON value.  Integers of any size and doubles are kept apart. -/
inductive Json
  | null
  | bool (value : Bool)
  | number (value : Number)
  | str (value : Text)
  | arr (items : List Json)
  | obj (fields : List (Text × Json))
deriving Repr, Inhabited

namespace Json

/-- An integer. -/
def int (n : Int) : Json := .number (.int n)

/-- A double. -/
def float (x : Float) : Json := .number (.float x)

/-- A value, or null for nothing. -/
def ofOption {α : Type} (encode : α → Json) : Option α → Json
  | none => .null
  | some a => encode a

/-- A field of an object; nothing for a missing field and for a value that is no object. -/
def field? (name : Text) : Json → Option Json
  | .obj fields => fields.lookup name
  | _ => none

/-- Whether a value counts as true: null, false, zero and what is empty do not. -/
def isTrue : Json → Bool
  | .null => false
  | .bool value => value
  | .number (.int n) => n != 0
  | .number (.float x) => x != 0.0
  | .str text => !text.isEmpty
  | .arr items => !items.isEmpty
  | .obj fields => !fields.isEmpty

/-- The number that a value of a JSON integer stands for. -/
def int? : Json → Option Int
  | .number (.int n) => some n
  | _ => none

end Json

end ScriptTemplate
