/-
# What a parser expected (`describe_expected_input`)

A parser that refuses a text says where, and which inputs it would have taken there.  The
message offers these inputs as a list in plain English; the end of the text is always offered
last, under a name of its own.
-/
import ScriptTemplate.Source

namespace ScriptTemplate

/-- Where a parser stopped, and what it would have taken there. -/
structure ParseFailure where
  expected : List Text
  position : Position
deriving DecidableEq, Repr, Inhabited

namespace ParseFailure

/-- The word by which a parser offers the end of its text. -/
def endMarker : Text := "EOF"

/-- How the end of the text is offered to the reader. -/
def endOfScript : Text := "the end of the script"

/-- The inputs on offer, the end of the text moved to the back and named for the reader. -/
def offers (expected : List Text) : List Text :=
  let items := expected.filter (· != endMarker)
  if items.length = expected.length then items else items ++ [endOfScript]

/-- A list in plain English: commas and a final "or" from three items on. -/
def alternatives : List Text → Text
  | [] => "nothing"
  | [a] => a
  | [a, b] => a ++ " or " ++ b
  | items => Text.join ", " items.dropLast ++ ", or " ++ items.getLastD ""

/-- The message of a refused text. -/
def describe (expected : List Text) : Text :=
  "Encountered unexpected input while parsing script. Expected "
    ++ alternatives (offers expected) ++ "."

/-- The diagnostic of a parse failure: its message, at the place where the parser stopped. -/
def diagnostic (failure : ParseFailure) : Diagnostic :=
  ⟨describe failure.expected, SourceRange.point failure.position⟩

end ParseFailure

end ScriptTemplate
