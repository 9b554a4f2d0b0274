/-
# Numerals of documents

A text of a document stands for an integer if it is a plain numeral: a minus sign or none, and
digits without a zero in front.  Any other text gets a second chance.  It is cleaned of what people
write around a number, and has to be a plain numeral then.  Cleaning takes away

* spaces at either end, and a plus sign;
* the zeros in front, with underscores among them;
* a fraction of zeros;
* single underscores.

Cleaning looks at one thing after the other, and not at the numeral as a whole.  So a minus sign is
found behind zeros as well as in front of them.
-/
import ScriptTemplate.Text.Blank
import ScriptTemplate.Text.Integer

namespace ScriptTemplate.Document

open Text (IntegerFault)

/-- A digit. -/
def isDigit (c : CodePoint) : Bool := c.isWithin '0' '9'

/-- A digit above zero. -/
def isLeadingDigit (c : CodePoint) : Bool := c.isWithin '1' '9'

/-- Splits a minus sign off the front of a text. -/
def minusSigned : Text → Bool × Text
  | .char '-' :: rest => (true, rest)
  | text => (false, text)

/-- The number of digits without a zero in front.  Too many digits are a fault, whatever comes
after them. -/
def plainDigits (text : Text) : Except IntegerFault Nat :=
  match text with
  | [] => .error .malformed
  | c :: rest =>
    if text = "0" then .ok 0
    else if isLeadingDigit c then
      if Text.digitLimit < (text.takeWhile isDigit).length then .error .tooLong
      else if rest.all isDigit then .ok (Text.ofDigits (text.filterMap Text.asciiDigit?))
      else .error .malformed
    else .error .malformed

/-- The integer of a plain numeral. -/
def plainNumeral (text : Text) : Except IntegerFault Int :=
  let (negative, digits) := minusSigned text
  (plainDigits digits).map fun n => if negative then -n else n

/-! ## Cleaning -/

/-- The text behind zeros and underscores, the code point before it being `previous`.  It has to
start with a digit, a minus sign or a point; a point keeps what is before it. -/
def behindZeros? (previous : CodePoint) : Text → Option Text
  | [] => some [previous]
  | c :: rest =>
    if c = '0' ∨ c = '_' then behindZeros? c rest
    else if isLeadingDigit c ∨ c = '-' then some (c :: rest)
    else if c = '.' then some (previous :: c :: rest)
    else none

/-- A text without the zeros in front. -/
def withoutLeadingZeros? : Text → Option Text
  | [] => none
  | c :: rest =>
    if c = '0' then behindZeros? c rest
    else if isLeadingDigit c ∨ c = '-' then some (c :: rest)
    else none

/-- Cuts the point and the zeros after it off a numeral; at least one zero has to be there. -/
def withoutZeroFraction (text : Text) : Text :=
  match text.dropWhile (· != .char '.') with
  | _ :: zero :: zeros =>
    if (zero :: zeros).all (· == .char '0') then text.takeWhile (· != .char '.') else text
  | _ => text

/-- Whether two underscores stand side by side. -/
def hasDoubleUnderscore : Text → Bool
  | c :: d :: rest => (c == '_' && d == '_') || hasDoubleUnderscore (d :: rest)
  | _ => false

/-- A text without its underscores, if they are all single and inside. -/
def withoutUnderscores (text : Text) : Text :=
  if text.head? = some (.char '_') ∨ text.getLast? = some (.char '_')
      ∨ hasDoubleUnderscore text then text
  else text.filter (· != .char '_')

/-- Splits a sign off the front of a text; none if another sign follows a plus sign. -/
def leadingSign? : Text → Option (Bool × Text)
  | .char '-' :: rest => some (true, rest)
  | .char '+' :: .char '-' :: _ => none
  | .char '+' :: rest => some (false, rest)
  | text => some (false, text)

/-- A text without what people write around a number. -/
def cleaned? (text : Text) : Option Text := do
  let (negative, body) ← leadingSign? (Text.trimmed Text.isSpace text)
  let digits := withoutUnderscores (withoutZeroFraction (← withoutLeadingZeros? body))
  return if negative then .char '-' :: digits else digits

/-- The integer of a text. -/
def numeral (text : Text) : Except IntegerFault Int :=
  match plainNumeral text with
  | .ok n => .ok n
  | .error .tooLong => .error .tooLong
  | .error .malformed =>
    match cleaned? text with
    | none => .error .malformed
    | some cleaned => (plainNumeral cleaned).mapError fun _ => .malformed

end ScriptTemplate.Document
