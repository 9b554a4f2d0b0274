/-
# Script trees (`parse_items`)

Tokens are read from left to right with a stack of open brackets.  A bracket that closes must
belong to the innermost one that is open; the items since then become one group.  The items read
before an open bracket wait in its frame.

The parser refuses a text at the first token that cannot stand where it does, at a character
that starts no lexeme, and at the end of the text while a bracket is open.
-/
import ScriptTemplate.ParseFailure
import ScriptTemplate.Script.Token

namespace ScriptTemplate.Script

/-- A piece of a script, with the stretch of text it came from. -/
inductive Node
  | identifier (name : Text) (range : SourceRange)
  | hex (value : Bytes) (range : SourceRange)
  | group (bracket : Bracket) (items : List Node) (range : SourceRange)
deriving Repr, Inhabited

mutual

/-- Equality of pieces is decided piece by piece. -/
def Node.decEq : (a b : Node) → Decidable (a = b)
  | .identifier n r, .identifier m q =>
    decidable_of_iff (n = m ∧ r = q) (by simp)
  | .hex v r, .hex w q =>
    decidable_of_iff (v = w ∧ r = q) (by simp)
  | .group b xs r, .group c ys q =>
    match Node.decEqList xs ys with
    | .isTrue h => decidable_of_iff (b = c ∧ r = q) (by simp [h])
    | .isFalse h => .isFalse (by simp [h])
  | .identifier .., .hex .. => .isFalse (by simp)
  | .identifier .., .group .. => .isFalse (by simp)
  | .hex .., .identifier .. => .isFalse (by simp)
  | .hex .., .group .. => .isFalse (by simp)
  | .group .., .identifier .. => .isFalse (by simp)
  | .group .., .hex .. => .isFalse (by simp)

/-- Equality of rows of pieces. -/
def Node.decEqList : (as bs : List Node) → Decidable (as = bs)
  | [], [] => .isTrue rfl
  | [], _ :: _ => .isFalse (by simp)
  | _ :: _, [] => .isFalse (by simp)
  | a :: as, b :: bs =>
    match Node.decEq a b, Node.decEqList as bs with
    | .isTrue h, .isTrue k => .isTrue (by rw [h, k])
    | .isFalse h, _ => .isFalse (by simp [h])
    | _, .isFalse k => .isFalse (by simp [k])

end

instance : DecidableEq Node := Node.decEq

/-- An open bracket: where it stands, and the items before it, newest first. -/
structure Frame where
  bracket : Bracket
  start : Position
  earlier : List Node
deriving DecidableEq, Repr, Inhabited

/-- What every place between two items admits, in the order of the alphabet. -/
def itemDescriptions : List Text :=
  ["a hex literal", "a push", "an evaluation", "an identifier"]

/-- How the closing bracket is offered to the reader. -/
def Bracket.closerDescription : Bracket → Text
  | .push => "\">\""
  | .evaluation => "\")\""

/-- What may stand next, given the open brackets: the closer of the innermost one, or the end of
the text, and any item. -/
def expectedWithin : List Frame → List Text
  | [] => ParseFailure.endMarker :: itemDescriptions
  | frame :: _ => frame.bracket.closerDescription :: itemDescriptions

/-- The refusal of what stands at a place, given the open brackets. -/
def refuse (frames : List Frame) (position : Position) : Except ParseFailure (List Node) :=
  .error ⟨expectedWithin frames, position⟩

/-- Builds the tree of a row of tokens.  `items` are those since the innermost open bracket,
newest first. -/
def build (frames : List Frame) (items : List Node) (ending : Ending) :
    List Token → Except ParseFailure (List Node)
  | [] =>
    match ending, frames with
    | .endOfText _, [] => .ok items.reverse
    | _, _ => refuse frames ending.position
  | token :: rest =>
    let range := SourceRange.between token.start token.stop
    match token.lexeme with
    | .word name => build frames (.identifier name range :: items) ending rest
    | .hex digits => build frames (.hex ((Bytes.ofHex? digits).getD []) range :: items) ending rest
    | .opening bracket => build (⟨bracket, token.start, items⟩ :: frames) [] ending rest
    | .closing bracket =>
      match frames with
      | [] => refuse frames token.start
      | frame :: outer =>
        if frame.bracket = bracket then
          let range := SourceRange.between frame.start token.stop
          build outer (.group bracket items.reverse range :: frame.earlier) ending rest
        else refuse frames token.start

/-- The tree of a script text. -/
def parse (text : Text) : Except ParseFailure (List Node) :=
  let (tokens, ending) := scan text
  build [] [] ending tokens

end ScriptTemplate.Script
