/-
# Writing JSON

Two layouts: everything on one line with a blank after each comma and colon, or one entry a line
with two blanks of indentation a level.  Text is written in printable ASCII: other code
points appear by their UTF-16 codes.  A third form, `inspect`, is how values appear inside messages.
-/
import ScriptTemplate.Json.Basic
import ScriptTemplate.Text.Quoted

namespace ScriptTemplate.Json

/-- A UTF-16 code unit, escaped. -/
def unitEscape (n : Nat) : Text := "\\u" ++ Text.hexOfWidth 4 n

/-- A code point of a JSON string.  A surrogate that stands alone is its own unit. -/
def escapedPoint (c : CodePoint) : Text :=
  if c = '\x22' then "\\\""
  else if c = '\\' then "\\\\"
  else if c = '\n' then "\\n"
  else if c = '\r' then "\\r"
  else if c = '\t' then "\\t"
  else if c = '\x08' then "\\b"
  else if c = '\x0c' then "\\f"
  else if 0x20 ≤ c.toNat ∧ c.toNat < 0x7f then [c]
  else if c.toNat < 0x10000 then unitEscape c.toNat
  else
    let n := c.toNat - 0x10000
    unitEscape (0xd800 + n / 0x400) ++ unitEscape (0xdc00 + n % 0x400)

/-- A JSON string with its quotes. -/
def quote (s : Text) : Text := "\x22" ++ s.flatMap escapedPoint ++ "\x22"

/-- The words for the two truth values. -/
def boolWord (b : Bool) : Text := if b then "true" else "false"

mutual

/-- A value on one line. -/
def compress : Json → Text
  | .null => "null"
  | .bool b => boolWord b
  | .number n => n.text Number.documentFormat
  | .str s => quote s
  | .arr items => "[" ++ Text.join ", " (compressAll items) ++ "]"
  | .obj fields => "\x7b" ++ Text.join ", " (compressFields fields) ++ "\x7d"

/-- Each item on one line. -/
def compressAll : List Json → List Text
  | [] => []
  | item :: items => item.compress :: compressAll items

/-- Each field on one line. -/
def compressFields : List (Text × Json) → List Text
  | [] => []
  | (name, value) :: fields => (quote name ++ ": " ++ value.compress) :: compressFields fields

end

/-- A new line at a depth of nesting. -/
def newline (depth : Nat) : Text := '\n' :: List.replicate (2 * depth) (.char ' ')

/-- Entries between brackets, one a line; nothing at all between the brackets if there are none. -/
def block (opener closer : Text) (depth : Nat) : List Text → Text
  | [] => opener ++ closer
  | entries =>
    opener ++ newline (depth + 1) ++ Text.join ("," ++ newline (depth + 1)) entries
      ++ newline depth ++ closer

mutual

/-- A value with one entry a line, at a depth of nesting. -/
def prettyAt (depth : Nat) : Json → Text
  | .arr items => block "[" "]" depth (prettyAll (depth + 1) items)
  | .obj fields => block "\x7b" "\x7d" depth (prettyFields (depth + 1) fields)
  | .null => "null"
  | .bool b => boolWord b
  | .number n => n.text Number.documentFormat
  | .str s => quote s

/-- Each item at a depth of nesting. -/
def prettyAll (depth : Nat) : List Json → List Text
  | [] => []
  | item :: items => item.prettyAt depth :: prettyAll depth items

/-- Each field at a depth of nesting. -/
def prettyFields (depth : Nat) : List (Text × Json) → List Text
  | [] => []
  | (name, value) :: fields =>
    (quote name ++ ": " ++ value.prettyAt depth) :: prettyFields depth fields

end

/-- A value with one entry a line. -/
def pretty (value : Json) : Text := value.prettyAt 0

mutual

/-- A value as messages show it: text in quotes, and words of their own for null and the two
truth values. -/
def inspect : Json → Text
  | .null => "None"
  | .bool b => if b then "True" else "False"
  | .number n => n.text Number.plainFormat
  | .str s => Text.quoted s
  | .arr items => "[" ++ Text.join ", " (inspectAll items) ++ "]"
  | .obj fields => "\x7b" ++ Text.join ", " (inspectFields fields) ++ "\x7d"

/-- Each item as messages show it. -/
def inspectAll : List Json → List Text
  | [] => []
  | item :: items => item.inspect :: inspectAll items

/-- Each field as messages show it. -/
def inspectFields : List (Text × Json) → List Text
  | [] => []
  | (name, value) :: fields => (Text.quoted name ++ ": " ++ value.inspect) :: inspectFields fields

end

/-- A value as running text: text stands for itself, all else as messages show it. -/
def display : Json → Text
  | .str s => s
  | value => value.inspect

end ScriptTemplate.Json
