/-
# Lexemes of a script text (`TOKEN_PATTERN`)

A script text is a row of lexemes with blanks between them where they are wanted.  There are
six kinds: the two opening and two closing brackets, hex literals and words.

* A word starts with a letter or an underscore and goes on as long as letters, digits,
  underscores and dots follow.
* A hex literal is `0x` and an even number of hex digits.  It has to end there: where a letter,
  a digit or an underscore follows, no lexeme starts at the `0`.

`read?_eq_some` is the fact that everything later rests on: what `read?` takes off the front is
exactly the written form of the lexeme it returns.
-/
import ScriptTemplate.Bytes
import ScriptTemplate.Text.Blank

namespace ScriptTemplate.Script

/-- The two pairs of brackets. -/
inductive Bracket
  /-- `<` and `>`: the bytecode between them is pushed. -/
  | push
  /-- `$(` and `)`: the bytecode between them is evaluated. -/
  | evaluation
deriving DecidableEq, Repr, Inhabited

/-- How the opening bracket is written. -/
def Bracket.opener : Bracket → Text
  | .push => [.char '<']
  | .evaluation => [.char '$', .char '(']

/-- How the closing bracket is written. -/
def Bracket.closer : Bracket → Text
  | .push => [.char '>']
  | .evaluation => [.char ')']

/-- The smallest meaningful pieces of a script text. -/
inductive Lexeme
  | opening (bracket : Bracket)
  | closing (bracket : Bracket)
  /-- A hex literal, by its digits. -/
  | hex (digits : Text)
  | word (name : Text)
deriving DecidableEq, Repr, Inhabited

/-- How a lexeme is written. -/
def Lexeme.text : Lexeme → Text
  | .opening bracket => bracket.opener
  | .closing bracket => bracket.closer
  | .hex digits => .char '0' :: .char 'x' :: digits
  | .word name => name

/-- An ASCII letter. -/
def isLetter (c : CodePoint) : Bool := c.isWithin 'a' 'z' || c.isWithin 'A' 'Z'

/-- A character that a word may start with. -/
def isWordStart (c : CodePoint) : Bool := isLetter c || c == '_'

/-- A character that may not follow a hex literal. -/
def isAlphanumeric (c : CodePoint) : Bool := isWordStart c || c.isWithin '0' '9'

/-- A character that a word may go on with. -/
def isWordPart (c : CodePoint) : Bool := isAlphanumeric c || c == '.'

/-- Whether the characters after `0x` make a hex literal. -/
def isHexBody (run : Text) : Bool := run.all Hex.isDigit && run.length % 2 == 0

/-- Takes the lexeme off the front of a text that does not start with a blank. -/
def Lexeme.read? (text : Text) : Option (Lexeme × Text) :=
  match text with
  | .char '$' :: .char '(' :: rest => some (.opening .evaluation, rest)
  | .char '<' :: rest => some (.opening .push, rest)
  | .char '>' :: rest => some (.closing .push, rest)
  | .char ')' :: rest => some (.closing .evaluation, rest)
  | .char '0' :: .char 'x' :: rest =>
    if isHexBody (rest.takeWhile isAlphanumeric) then
      some (.hex (rest.takeWhile isAlphanumeric), rest.dropWhile isAlphanumeric)
    else none
  | c :: rest =>
    if isWordStart c then
      some (.word (c :: rest.takeWhile isWordPart), rest.dropWhile isWordPart)
    else none
  | [] => none

namespace Lexeme

/-- **Nothing is lost.**  A text is the lexeme read off its front, followed by the rest. -/
theorem read?_eq_some {text rest : Text} {lexeme : Lexeme}
    (h : read? text = some (lexeme, rest)) : text = lexeme.text ++ rest := by
  unfold read? at h
  split at h
  · simp only [Option.some.injEq, Prod.mk.injEq] at h
    obtain ⟨rfl, rfl⟩ := h
    rfl
  · simp only [Option.some.injEq, Prod.mk.injEq] at h
    obtain ⟨rfl, rfl⟩ := h
    rfl
  · simp only [Option.some.injEq, Prod.mk.injEq] at h
    obtain ⟨rfl, rfl⟩ := h
    rfl
  · simp only [Option.some.injEq, Prod.mk.injEq] at h
    obtain ⟨rfl, rfl⟩ := h
    rfl
  · split at h
    · simp only [Option.some.injEq, Prod.mk.injEq] at h
      obtain ⟨rfl, rfl⟩ := h
      simp [Lexeme.text]
    · simp at h
  · split at h
    · simp only [Option.some.injEq, Prod.mk.injEq] at h
      obtain ⟨rfl, rfl⟩ := h
      simp [Lexeme.text]
    · simp at h
  · simp at h

/-- A lexeme that was read is not empty. -/
theorem text_ne_nil_of_read? {text rest : Text} {lexeme : Lexeme}
    (h : read? text = some (lexeme, rest)) : lexeme.text ≠ [] := by
  cases lexeme with
  | opening bracket => cases bracket <;> simp [Lexeme.text, Bracket.opener]
  | closing bracket => cases bracket <;> simp [Lexeme.text, Bracket.closer]
  | hex digits => simp [Lexeme.text]
  | word name =>
    unfold read? at h
    split at h <;> (try split at h) <;> simp at h
    obtain ⟨rfl, -⟩ := h
    simp [Lexeme.text]

/-- Reading a lexeme leaves less text. -/
theorem length_lt_of_read? {text rest : Text} {lexeme : Lexeme}
    (h : read? text = some (lexeme, rest)) : rest.length < text.length := by
  have written := read?_eq_some h
  have nonempty : 0 < lexeme.text.length := List.length_pos_iff.mpr (text_ne_nil_of_read? h)
  rw [written, List.length_append]
  omega

end Lexeme

end ScriptTemplate.Script
