/-
# Integers in text

An integer is an optional sign and digits; a single underscore may stand between two digits.
Which digits count is a parameter, and so is what may surround the number.  A numeral with more
than `digitLimit` digits is refused, whatever its value.
-/
import ScriptTemplate.Text.Blank
import ScriptTemplate.Text.Digit

namespace ScriptTemplate.Text

/-- The most digits a numeral may have. -/
def digitLimit : Nat := 4300

/-- The ASCII digits only. -/
def asciiDigit? (c : CodePoint) : Option Nat :=
  if c.isWithin '0' '9' then some (c.toNat - 48) else none

/-- Digits with single underscores between them; `afterDigit` says that one may stand here. -/
def numeralDigits? (digit? : CodePoint → Option Nat) : Bool → Text → Option (List Nat)
  | afterDigit, [] => if afterDigit then some [] else none
  | afterDigit, c :: rest =>
    match digit? c with
    | some d => (numeralDigits? digit? true rest).map (d :: ·)
    | none => if c = '_' ∧ afterDigit then numeralDigits? digit? false rest else none

/-- The number of a row of decimal digits. -/
def ofDigits (digits : List Nat) : Nat := digits.foldl (fun n d => 10 * n + d) 0

/-- Splits a sign off the front of a text. -/
def signed : Text → Bool × Text
  | .char '-' :: rest => (true, rest)
  | .char '+' :: rest => (false, rest)
  | text => (false, text)

/-- Why a text is no integer. -/
inductive IntegerFault
  | malformed
  | tooLong
deriving DecidableEq, Repr, Inhabited

/-- Reads an optional sign and a numeral. -/
def numeral (digit? : CodePoint → Option Nat) (text : Text) : Except IntegerFault Int :=
  let (negative, body) := signed text
  match numeralDigits? digit? false body with
  | none => .error .malformed
  | some digits =>
    if digitLimit < digits.length then .error .tooLong
    else .ok (if negative then -(ofDigits digits) else ofDigits digits)

/-- Reads an integer between spaces, in the digits of any script. -/
def integer (text : Text) : Except IntegerFault Int :=
  numeral digitValue? (trimmed isSpace text)

end ScriptTemplate.Text
