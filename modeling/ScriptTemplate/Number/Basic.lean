/-
# Numbers and their text

A measured value is an integer of any size or a double, and stays what it is.  Values of both
kinds are compared exactly: an integer is never rounded for it.

The text of a double has the fewest digits that read back.  It is positional from `0.0001` up to
below `1e16` and has at least one digit after the point there; elsewhere it has an exponent with
a sign and at least two digits.
-/
import ScriptTemplate.Number.Shortest
import ScriptTemplate.Text.Basic

namespace ScriptTemplate

/-- An integer or a double. -/
inductive Number
  | int (value : Int)
  | float (value : Float)
deriving Repr, Inhabited

namespace Number

/-- Whether a number is strictly above another; a NaN never is, and nothing is above it. -/
def exceeds : Number → Number → Bool
  | .int a, .int b => b < a
  | .float a, .float b => b < a
  | .int a, .float b =>
    match Binary.ofFloat b with
    | .nan => false
    | .infinite negative => negative
    | .finite negative significand exponent => compareInt a negative significand exponent == .gt
  | .float a, .int b =>
    match Binary.ofFloat a with
    | .nan => false
    | .infinite negative => !negative
    | .finite negative significand exponent => compareInt b negative significand exponent == .lt

/-- How doubles are written. -/
structure FloatFormat where
  /-- The powers of the first digit from which and up to which notation is positional. -/
  positionalFrom : Int
  positionalTo : Int
  /-- The fewest digits of an exponent. -/
  exponentWidth : Nat
  nan : Text
  infinity : Text

/-- A row of zeros. -/
def zeros (count : Nat) : Text := List.replicate count (.char '0')

/-- Digits without the zeros at their end. -/
def withoutEndZeros (digits : Text) : Text := (digits.reverse.dropWhile (· == .char '0')).reverse

/-- An exponent behind its letter: a sign and at least `width` digits. -/
def exponentText (letter : Char) (width : Nat) (exponent : Int) : Text :=
  letter :: (if exponent < 0 then '-' else '+') :: (Text.ofNat exponent.natAbs).padLeft '0' width

/-- A decimal with a point: whole part, point, and at least one digit after it. -/
def positional (digits : Text) (exponent : Int) : Text :=
  if exponent < 0 then "0." ++ zeros (-exponent - 1).toNat ++ digits
  else
    let whole := exponent.toNat + 1
    let padded := digits.padRight '0' whole
    let fraction := padded.drop whole
    padded.take whole ++ "." ++ (if fraction.isEmpty then zeros 1 else fraction)

/-- A decimal with an exponent. -/
def scientific (exponentWidth : Nat) (digits : Text) (exponent : Int) : Text :=
  let fraction : Text := if digits.tail.isEmpty then [] else "." ++ digits.tail
  digits.take 1 ++ fraction ++ exponentText 'e' exponentWidth exponent

/-- The text of a double in a given format. -/
def FloatFormat.text (format : FloatFormat) (x : Float) : Text :=
  match Binary.ofFloat x with
  | .nan => format.nan
  | .infinite negative => (if negative then "-" else "") ++ format.infinity
  | .finite negative significand exponent =>
    let decimal := if significand = 0 then ⟨0, 0⟩ else shortest significand exponent
    let digits : Text :=
      if significand = 0 then "0" else withoutEndZeros (Text.ofNat decimal.digits)
    let body :=
      if format.positionalFrom ≤ decimal.exponent ∧ decimal.exponent < format.positionalTo then
        positional digits decimal.exponent
      else scientific format.exponentWidth digits decimal.exponent
    (if negative then "-" else "") ++ body

/-- Doubles in messages. -/
def plainFormat : FloatFormat := ⟨-4, 16, 2, "nan", "inf"⟩

/-- Doubles in documents, which have words of their own for the values that are no numbers. -/
def documentFormat : FloatFormat := ⟨-4, 16, 2, "NaN", "Infinity"⟩

/-- The text of a number. -/
def text (format : FloatFormat) : Number → Text
  | .int n => toString n
  | .float x => format.text x

end Number

end ScriptTemplate
