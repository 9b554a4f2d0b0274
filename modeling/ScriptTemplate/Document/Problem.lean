/-
# Problems of documents

A document is checked as a whole: every problem is reported, with the path to the value that has
it.  A problem is a cause, with a code and a text.
-/
import ScriptTemplate.Text.Quoted

namespace ScriptTemplate.Document

/-- What is wrong with a value. -/
inductive Cause
  | missing
  | unknownField
  | notDictionary
  | notText
  /-- A text or a name that has a surrogate in it. -/
  | illFormedText
  | notBytes
  /-- Not a record of the given name. -/
  | notRecord (name : Text)
  /-- Not one of the given words. -/
  | notWord (words : List Text)
  /-- Of the right form, and refused by a rule of the field. -/
  | refused (reason : Text)
  | notNumeral
  | numeralTooLarge
  | fractional
  | notFinite
  | notInteger
  | tooSmall (least : Int)
  | tooLarge (greatest : Int)
deriving DecidableEq, Repr, Inhabited

/-- A list of words for the reader, the last one after "or". -/
def offered : List Text → Text
  | [] => ""
  | [word] => Text.quoted word
  | [word, last] => Text.quoted word ++ " or " ++ Text.quoted last
  | word :: rest => Text.quoted word ++ ", " ++ offered rest

namespace Cause

/-- The code of a cause. -/
def code : Cause → Text
  | missing => "missing"
  | unknownField => "extra_forbidden"
  | notDictionary => "dict_type"
  | notText => "string_type"
  | illFormedText => "string_unicode"
  | notBytes => "bytes_type"
  | notRecord _ => "model_type"
  | notWord _ => "enum"
  | refused _ => "value_error"
  | notNumeral => "int_parsing"
  | numeralTooLarge => "int_parsing_size"
  | fractional => "int_from_float"
  | notFinite => "finite_number"
  | notInteger => "int_type"
  | tooSmall _ => "greater_than_equal"
  | tooLarge _ => "less_than_equal"

/-- The text of a cause. -/
def message : Cause → Text
  | missing => "Field required"
  | unknownField => "Extra inputs are not permitted"
  | notDictionary => "Input should be a valid dictionary"
  | notText => "Input should be a valid string"
  | illFormedText =>
    "Input should be a valid string, unable to parse raw data as a unicode string"
  | notBytes => "Input should be a valid bytes"
  | notRecord name => "Input should be a valid dictionary or instance of " ++ name
  | notWord words => "Input should be " ++ offered words
  | refused reason => "Value error, " ++ reason
  | notNumeral => "Input should be a valid integer, unable to parse string as an integer"
  | numeralTooLarge => "Unable to parse input string as an integer, exceeded maximum size"
  | fractional => "Input should be a valid integer, got a number with a fractional part"
  | notFinite => "Input should be a finite number"
  | notInteger => "Input should be a valid integer"
  | tooSmall least => "Input should be greater than or equal to " ++ toString least
  | tooLarge greatest => "Input should be less than or equal to " ++ toString greatest

end Cause

/-- A cause, and the path from the document to the value that has it. -/
structure Problem where
  path : List Text
  cause : Cause
deriving DecidableEq, Repr, Inhabited

/-- A step of a path; one with a point in it is set off, so that the path can be read. -/
def pathStep (key : Text) : Text :=
  if key.contains (.char '.') then "\x60" ++ key ++ "\x60" else key

/-- The lines of a problem: the path, unless it is empty, then text and code. -/
def Problem.lines (p : Problem) : List Text :=
  let place := if p.path.isEmpty then [] else [Text.join "." (p.path.map pathStep)]
  place ++ ["  " ++ p.cause.message ++ " [type=" ++ p.cause.code ++ "]"]

/-- All problems of a document that should have been a record of the given name. -/
structure Invalid where
  record : Text
  problems : List Problem
deriving DecidableEq, Repr, Inhabited

namespace Invalid

/-- How many problems there are. -/
def heading (i : Invalid) : Text :=
  let plural := if i.problems.length = 1 then "" else "s"
  toString i.problems.length ++ " validation error" ++ plural ++ " for " ++ i.record

/-- The heading and all problems, for the reader. -/
def text (i : Invalid) : Text :=
  Text.join "\n" (i.heading :: i.problems.flatMap (·.lines))

end Invalid

/-- A value, or all the problems that stand in its way. -/
abbrev Checked (α : Type) := Except (List Problem) α

namespace Checked

variable {α β : Type}

/-- A single problem with the value at hand. -/
def fail (cause : Cause) : Checked α := .error [⟨[], cause⟩]

/-- Two values, or the problems of both, the first one's first. -/
def both : Checked α → Checked β → Checked (α × β)
  | .ok a, .ok b => .ok (a, b)
  | .ok _, .error problems => .error problems
  | .error problems, .ok _ => .error problems
  | .error first, .error second => .error (first ++ second)

/-- A key as paths show it: three replacement characters for each surrogate, one for each of the
bytes that it would take. -/
def shownKey (key : Text) : Text :=
  .ofChars (key.replaced (List.replicate 3 Text.replacementChar))

/-- A check of the value under a key. -/
def within (key : Text) (checked : Checked α) : Checked α :=
  checked.mapError fun problems =>
    problems.map fun p => { p with path := shownKey key :: p.path }

/-- A check as a check of a record. -/
def asRecord (record : Text) (checked : Checked α) : Except Invalid α :=
  checked.mapError (⟨record, ·⟩)

/-- **Both checks succeed exactly if each does.** -/
theorem both_eq_ok_iff {a : Checked α} {b : Checked β} {x : α} {y : β} :
    both a b = .ok (x, y) ↔ a = .ok x ∧ b = .ok y := by
  cases a <;> cases b <;> simp [both]

end Checked

end ScriptTemplate.Document
