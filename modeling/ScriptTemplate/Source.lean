/-
# Places in a script text (`SourceRange`, `SourcePosition`)

Lines and columns count from one, and only a newline ends a line.  A range runs from its start
up to, and not including, its end; the range of four zeros says that a message has no place.
Positions are integers, since diagnostics of a foreign toolchain may carry any numbers.
-/
import ScriptTemplate.Text.Basic

namespace ScriptTemplate

/-- A place in a text. -/
structure Position where
  line : Int
  column : Int
deriving DecidableEq, Repr, Inhabited

namespace Position

/-- The place of the first character. -/
def first : Position := ⟨1, 1⟩

/-- The place after a character that stands here. -/
def after (p : Position) (c : CodePoint) : Position :=
  if c = '\n' then ⟨p.line + 1, 1⟩ else ⟨p.line, p.column + 1⟩

/-- The place after a text that stands here. -/
def afterAll (p : Position) (text : Text) : Position := text.foldl after p

@[simp] theorem afterAll_nil (p : Position) : p.afterAll [] = p := rfl

@[simp] theorem afterAll_cons (p : Position) (c : CodePoint) (text : Text) :
    p.afterAll (c :: text) = (p.after c).afterAll text := rfl

/-- **Places compose.**  The place after two texts is reached through the first. -/
@[simp] theorem afterAll_append (p : Position) (s t : Text) :
    p.afterAll (s ++ t) = (p.afterAll s).afterAll t := by
  simp [afterAll]

end Position

/-- A stretch of a text, from its start up to its end. -/
structure SourceRange where
  startLine : Int := 0
  startColumn : Int := 0
  endLine : Int := 0
  endColumn : Int := 0
deriving DecidableEq, Repr, Inhabited

namespace SourceRange

/-- The range of a message that has no place. -/
def empty : SourceRange := ⟨0, 0, 0, 0⟩

/-- The range from one place to another. -/
def between (start stop : Position) : SourceRange :=
  ⟨start.line, start.column, stop.line, stop.column⟩

/-- The range of a single place. -/
def point (p : Position) : SourceRange := between p p

/-- Whether a range says that there is no place. -/
def isEmpty (r : SourceRange) : Bool := r == empty

end SourceRange

/-- A message about a place of a script text. -/
structure Diagnostic where
  message : Text
  range : SourceRange := SourceRange.empty
deriving DecidableEq, Repr, Inhabited

end ScriptTemplate
