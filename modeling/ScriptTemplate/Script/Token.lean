/-
# Tokens: lexemes with their places (`peek`, `advance`)

Scanning walks a text once, passes over blanks, and notes where each lexeme starts and stops.
It ends at the end of the text or at the first character that starts no lexeme; either way the
place of the ending is kept, since a parse failure may have to point at it.
-/
import ScriptTemplate.Source
import ScriptTemplate.Script.Lexeme

namespace ScriptTemplate.Script

/-- A lexeme, where it starts, and where the text goes on after it. -/
structure Token where
  lexeme : Lexeme
  start : Position
  stop : Position
deriving DecidableEq, Repr, Inhabited

/-- Why scanning ended, and where. -/
inductive Ending
  | endOfText (position : Position)
  | stray (position : Position)
deriving DecidableEq, Repr, Inhabited

/-- The place where scanning ended. -/
def Ending.position : Ending → Position
  | .endOfText position => position
  | .stray position => position

/-- The tokens of a text that starts at a given place, and how the text ends. -/
def scanFrom (position : Position) (text : Text) : List Token × Ending :=
  match text with
  | [] => ([], .endOfText position)
  | c :: rest =>
    if Text.isBlank c then scanFrom (position.after c) rest
    else
      match h : Lexeme.read? (c :: rest) with
      | none => ([], .stray position)
      | some (lexeme, remaining) =>
        have := Lexeme.length_lt_of_read? h
        let stop := position.afterAll lexeme.text
        let (tokens, ending) := scanFrom stop remaining
        (⟨lexeme, position, stop⟩ :: tokens, ending)
termination_by text.length
decreasing_by
  · simp
  · assumption

/-- The tokens of a whole script text, and how it ends. -/
def scan (text : Text) : List Token × Ending := scanFrom Position.first text

end ScriptTemplate.Script
