/-
# The shortest decimal of a double

Among the decimals that round to a given double, those with the fewest digits are taken, and
among them the nearest to the double.  For one digit, two digits and so on, only the two
neighbours of the double on that decimal grid have to be tried: if any point of the grid lies in
the interval of numbers that round to the double, one of the two does.
-/
import ScriptTemplate.Number.Binary

namespace ScriptTemplate.Number

/-- A decimal `d.ddd * 10 ^ exponent`: its digits as one number, and the power of its first. -/
structure Decimal where
  digits : Nat
  exponent : Int
deriving DecidableEq, Repr, Inhabited

/-- How many decimal digits a number has. -/
def width (n : Nat) : Nat := (Nat.toDigits 10 n).length

/-- The power of ten of a positive quotient's first digit. -/
def decimalExponent (numerator denominator : Nat) : Int :=
  if denominator ≤ numerator then (width (numerator / denominator) : Int) - 1
  else -(width ((denominator + numerator - 1) / numerator - 1) : Int)

/-- The numbers that round to a double, over a common denominator: the value and the two ends of
the interval, and whether the ends round to it too. -/
structure Interval where
  low : Nat
  value : Nat
  high : Nat
  denominator : Nat
  closed : Bool
deriving DecidableEq, Repr, Inhabited

/-- The interval of `significand * 2 ^ exponent`.  Below a power of two the doubles lie twice as
close, so the lower end is nearer there. -/
def Interval.of (significand : Nat) (exponent : Int) : Interval :=
  let narrow := significand = Nat.pow 2 52 ∧ leastExponent < exponent
  let low := 4 * significand - if narrow then 1 else 2
  let scale := if 0 ≤ exponent then Nat.pow 2 exponent.toNat else 1
  let denominator := if 0 ≤ exponent then 4 else 4 * Nat.pow 2 (-exponent).toNat
  ⟨low * scale, 4 * significand * scale, (4 * significand + 2) * scale, denominator,
    significand % 2 = 0⟩

/-- Whether `candidate * 10 ^ power` rounds to the double. -/
def Interval.contains (i : Interval) (candidate : Nat) (power : Int) : Bool :=
  let scaled := candidate * Nat.pow 10 power.toNat * i.denominator
  let low := i.low * Nat.pow 10 (-power).toNat
  let high := i.high * Nat.pow 10 (-power).toNat
  if i.closed then low ≤ scaled && scaled ≤ high else low < scaled && scaled < high

/-- The neighbours of the double on the grid of `10 ^ power`: the one that rounds to it, or the
nearer if both do. -/
def Interval.onGrid? (i : Interval) (power : Int) : Option Nat :=
  let numerator := i.value * Nat.pow 10 (-power).toNat
  let denominator := i.denominator * Nat.pow 10 power.toNat
  let below := numerator / denominator
  match i.contains below power, i.contains (below + 1) power with
  | true, true =>
    let twice := 2 * (numerator % denominator)
    some (if twice < denominator ∨ (twice = denominator ∧ below % 2 = 0) then below else below + 1)
  | true, false => some below
  | false, true => some (below + 1)
  | false, false => none

/-- Tries grids of `count`, `count + 1`, … digits. -/
def Interval.search (i : Interval) (first : Int) : Nat → Nat → Decimal
  | 0, count => ⟨i.value * Nat.pow 10 count / i.denominator, first⟩
  | tries + 1, count =>
    let power := first - (count - 1 : Nat)
    match i.onGrid? power with
    | some digits =>
      -- A neighbour above may have reached the next power of ten.
      if digits = Nat.pow 10 count then ⟨1, first + 1⟩ else ⟨digits, first⟩
    | none => i.search first tries (count + 1)

/-- The shortest decimal that rounds to a positive double.  Seventeen digits always suffice. -/
def shortest (significand : Nat) (exponent : Int) : Decimal :=
  let i := Interval.of significand exponent
  i.search (decimalExponent i.value i.denominator) 17 1

end ScriptTemplate.Number
