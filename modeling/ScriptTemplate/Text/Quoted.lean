/-
# Quoted text

Messages show a text between quotes.  The quotes are single, unless the text has a single quote
and no double one.  The quote in use, the backslash and the three common control characters are
escaped by a backslash; any other code point that does not show itself is written by its number
in two, four or eight hexadecimal digits.
-/
import ScriptTemplate.Bytes
import ScriptTemplate.Text.Printable

namespace ScriptTemplate.Text

/-- The hexadecimal digits of a number in a fixed width. -/
def hexOfWidth : Nat → Nat → Text
  | 0, _ => []
  | width + 1, n => hexOfWidth width (n / 16) ++ [Hex.digit (n % 16)]

/-- A code point by its number. -/
def codeEscape (n : Nat) : Text :=
  if n < 0x100 then "\\x" ++ hexOfWidth 2 n
  else if n < 0x10000 then "\\u" ++ hexOfWidth 4 n
  else "\\U" ++ hexOfWidth 8 n

/-- A code point between the given quotes. -/
def quotedPoint (quote c : CodePoint) : Text :=
  if c = quote ∨ c = '\\' then ['\\', c]
  else if c = '\n' then "\\n"
  else if c = '\r' then "\\r"
  else if c = '\t' then "\\t"
  else if isPrintable c then [c]
  else codeEscape c.toNat

/-- The quote that is used by choice. -/
def singleQuote : CodePoint := .char '\x27'

/-- The quote that is used where it saves an escape. -/
def doubleQuote : CodePoint := .char '\x22'

/-- The quotes that a text is written between. -/
def quoteFor (text : Text) : CodePoint :=
  if text.contains singleQuote && !text.contains doubleQuote then doubleQuote else singleQuote

/-- A text between quotes. -/
def quoted (text : Text) : Text :=
  let quote := quoteFor text
  quote :: text.flatMap (quotedPoint quote) ++ [quote]

/-- A text in ASCII: any other code point is written by its number. -/
def asciiOnly (text : Text) : Text :=
  text.flatMap fun c => if c.toNat < 0x80 then [c] else codeEscape c.toNat

end ScriptTemplate.Text
