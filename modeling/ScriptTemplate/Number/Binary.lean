/-
# Doubles as exact numbers

A finite double is `m * 2 ^ q` for a natural `m` and an integer `q`.  This module takes doubles
apart into these two numbers and puts the nearest double to a quotient together again, in exact
arithmetic.  A tie goes to the even significand.
-/

namespace ScriptTemplate.Number

/-- What a double stands for. -/
inductive Binary
  | nan
  | infinite (negative : Bool)
  /-- `significand * 2 ^ exponent`, with a sign that also a zero has. -/
  | finite (negative : Bool) (significand : Nat) (exponent : Int)
deriving DecidableEq, Repr, Inhabited

/-- The exponent of the smallest double above zero. -/
def leastExponent : Int := -1074

/-- Takes a double apart. -/
def Binary.ofFloat (x : Float) : Binary :=
  let bits := x.toBits.toNat
  let negative : Bool := bits ≥ Nat.pow 2 63
  let biased : Nat := bits / Nat.pow 2 52 % Nat.pow 2 11
  let fraction : Nat := bits % Nat.pow 2 52
  if biased = 2047 then
    if fraction = 0 then .infinite negative else .nan
  else if biased = 0 then .finite negative fraction leastExponent
  else .finite negative (Nat.pow 2 52 + fraction) ((biased : Int) - 1075)

/-- The whole part of `± significand * 2 ^ exponent`. -/
def wholePart (negative : Bool) (significand : Nat) (exponent : Int) : Int :=
  let whole : Nat := significand * Nat.pow 2 exponent.toNat / Nat.pow 2 (-exponent).toNat
  if negative then -whole else whole

/-- The double with a sign and the bits below it. -/
def floatOfBits (negative : Bool) (magnitude : Nat) : Float :=
  Float.ofBits (UInt64.ofNat (magnitude + if negative then Nat.pow 2 63 else 0))

/-- The bits of infinity. -/
def infinityBits : Nat := 2047 * Nat.pow 2 52

/-- The nearest whole number to a quotient, a tie going to the even one. -/
def roundHalfEven (numerator denominator : Nat) : Nat :=
  let quotient := numerator / denominator
  let twice := 2 * (numerator % denominator)
  if twice < denominator then quotient
  else if denominator < twice then quotient + 1
  else quotient + quotient % 2

/-- `numerator * 2 ^ (-q) / denominator`, rounded. -/
def scaledRound (numerator denominator : Nat) (q : Int) : Nat :=
  if q ≤ 0 then roundHalfEven (numerator * Nat.pow 2 (-q).toNat) denominator
  else roundHalfEven numerator (denominator * Nat.pow 2 q.toNat)

/-- An exponent for which the quotient has fifty-three significant bits, or the least one. -/
def exponentOf (numerator denominator : Nat) : Int :=
  let guess : Int := (numerator.log2 : Int) - (denominator.log2 : Int) - 52
  -- The guess is right or one too large.
  let tooLarge :=
    if guess ≤ 0 then numerator * Nat.pow 2 (-guess).toNat < denominator * Nat.pow 2 52
    else numerator < denominator * Nat.pow 2 (guess.toNat + 52)
  max leastExponent (if tooLarge then guess - 1 else guess)

/-- The bits of the double nearest to a quotient. -/
def nearestBits (numerator denominator : Nat) : Nat :=
  if numerator = 0 then 0
  else
    let q := exponentOf numerator denominator
    let significand := scaledRound numerator denominator q
    -- The significand's leading bit carries into the exponent field.
    min infinityBits ((q - leastExponent).toNat * Nat.pow 2 52 + significand)

/-- The double nearest to `± numerator / denominator`. -/
def nearestFloat (negative : Bool) (numerator denominator : Nat) : Float :=
  floatOfBits negative (nearestBits numerator denominator)

/-- The double nearest to an integer. -/
def floatOfInt (n : Int) : Float := nearestFloat (n < 0) n.natAbs 1

/-- Whether an integer lies beyond the doubles. -/
def exceedsFloat (n : Int) : Bool := nearestBits n.natAbs 1 == infinityBits

/-- The double nearest to `± digits * 10 ^ exponent`.  Exponents far outside the range of the
doubles are decided without computing the power. -/
def floatOfDecimal (negative : Bool) (digits : Nat) (exponent : Int) : Float :=
  let width : Int := (Nat.toDigits 10 digits).length
  if digits = 0 ∨ exponent + width < -400 then floatOfBits negative 0
  else if 400 < exponent + width then floatOfBits negative infinityBits
  else if 0 ≤ exponent then nearestFloat negative (digits * Nat.pow 10 exponent.toNat) 1
  else nearestFloat negative digits (Nat.pow 10 (-exponent).toNat)

/-- The order of an integer and a finite double, exact on both sides. -/
def compareInt (n : Int) (negative : Bool) (significand : Nat) (exponent : Int) : Ordering :=
  let signed : Int := if negative then -significand else significand
  if 0 ≤ exponent then compare n (signed * Nat.pow 2 exponent.toNat)
  else compare (n * Nat.pow 2 (-exponent).toNat) signed

end ScriptTemplate.Number
