/-
# Rounded decimals of a double

A double can be written with a given number of digits: after the point, or in all.  It is rounded
to them once and exactly, a tie going to the even digit.  There are three styles.  *Fixed* has a
number of digits after the point.  *Scientific* has one digit before the point, a number of digits
after it, and an exponent.  *General* has a number of digits in all; it takes an exponent where the
first digit stands too far from the point, and leaves out the zeros at the end.

A point that nothing follows is left out, too.  Both are kept on request.
-/
import ScriptTemplate.Number.Basic

namespace ScriptTemplate.Number

/-- How a rounded decimal is laid out. -/
inductive RoundedStyle
  | fixed
  | scientific
  | general
deriving DecidableEq, Repr, Inhabited

/-- How a double is rounded and written. -/
structure RoundedFormat where
  style : RoundedStyle
  /-- How many digits there are: after the point, or in all for the general style. -/
  digits : Nat
  /-- Whether the point, and the zeros at the end of the general style, are kept. -/
  complete : Bool := false
  upperCase : Bool := false
deriving DecidableEq, Repr, Inhabited

/-- A quotient rounded to a number of significant digits, which is at least one. -/
def significant (count numerator denominator : Nat) : Decimal :=
  if numerator = 0 then ⟨0, 0⟩
  else
    let exponent := decimalExponent numerator denominator
    let power := exponent - (count - 1 : Nat)
    let digits :=
      roundHalfEven (numerator * Nat.pow 10 (-power).toNat) (denominator * Nat.pow 10 power.toNat)
    -- Rounding up may have reached the next power of ten.
    if digits = Nat.pow 10 count then ⟨Nat.pow 10 (count - 1), exponent + 1⟩
    else ⟨digits, exponent⟩

/-- Digits before and after a point; the point is left out if nothing follows it, unless it is to
be kept. -/
def pointed (keepsPoint : Bool) (whole fraction : Text) : Text :=
  if fraction.isEmpty && !keepsPoint then whole else whole ++ "." ++ fraction

/-- Digits whose first one stands at a power of ten, laid out around the point. -/
def placed (keepsPoint : Bool) (digits : Text) (exponent : Int) : Text :=
  if exponent < 0 then
    pointed keepsPoint "0" (zeros (-exponent - 1).toNat ++ digits)
  else
    let padded := digits.padRight '0' (exponent.toNat + 1)
    pointed keepsPoint (padded.take (exponent.toNat + 1)) (padded.drop (exponent.toNat + 1))

namespace RoundedFormat

/-- The letter of exponents. -/
def exponentLetter (format : RoundedFormat) : Char := if format.upperCase then 'E' else 'e'

/-- Digits with one before the point, and an exponent. -/
def withExponent (format : RoundedFormat) (digits : Text) (exponent : Int) : Text :=
  pointed format.complete (digits.take 1) (digits.drop 1)
    ++ exponentText format.exponentLetter 2 exponent

/-- A quotient in fixed style. -/
def fixed (format : RoundedFormat) (numerator denominator : Nat) : Text :=
  let scaled := roundHalfEven (numerator * Nat.pow 10 format.digits) denominator
  let digits := (Text.ofNat scaled).padLeft '0' (format.digits + 1)
  let whole := digits.length - format.digits
  pointed format.complete (digits.take whole) (digits.drop whole)

/-- A quotient in scientific style. -/
def scientific (format : RoundedFormat) (numerator denominator : Nat) : Text :=
  let decimal := significant (format.digits + 1) numerator denominator
  format.withExponent ((Text.ofNat decimal.digits).padLeft '0' (format.digits + 1))
    decimal.exponent

/-- A quotient in general style.  No digits at all count as one. -/
def general (format : RoundedFormat) (numerator denominator : Nat) : Text :=
  let count := max 1 format.digits
  let decimal := significant count numerator denominator
  let all := (Text.ofNat decimal.digits).padLeft '0' count
  let digits := if format.complete then all else all.take 1 ++ withoutEndZeros (all.drop 1)
  if decimal.exponent < -4 ∨ count ≤ decimal.exponent then
    format.withExponent digits decimal.exponent
  else placed format.complete digits decimal.exponent

/-- A word for a value that is no number, in the case of the format. -/
def word (format : RoundedFormat) (lower upper : Text) : Text :=
  if format.upperCase then upper else lower

/-- The text of a double. -/
def text (format : RoundedFormat) (x : Float) : Text :=
  match Binary.ofFloat x with
  | .nan => format.word "nan" "NAN"
  | .infinite negative => (if negative then "-" else "") ++ format.word "inf" "INF"
  | .finite negative significand exponent =>
    let numerator := significand * Nat.pow 2 exponent.toNat
    let denominator := Nat.pow 2 (-exponent).toNat
    let body := match format.style with
      | .fixed => format.fixed numerator denominator
      | .scientific => format.scientific numerator denominator
      | .general => format.general numerator denominator
    (if negative then "-" else "") ++ body

end RoundedFormat

end ScriptTemplate.Number
