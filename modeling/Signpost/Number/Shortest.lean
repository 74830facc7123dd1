import Signpost.Number.Binary

/-!
# Shortest decimals

The decimal of a floating-point number is the one with the fewest digits among those that round to
the number again, and of these the nearest. The decimals that round to a number form an interval;
of the decimals with a given number of digits the two neighbours of the number are tried.

## Main definitions

* `Shortest.decimal`: the digits of a positive number and the place of the decimal point.
-/

namespace Signpost.Shortest

-- Powers are those of numbers, whatever other powers a module knows of.
attribute [local instance (high)] instPowNat

/-- A positive number with the interval of reals that round to it, as numerators over one
denominator. -/
structure Interval where
  low : Nat
  value : Nat
  high : Nat
  den : Nat
  /-- Whether the ends of the interval round to the number too. -/
  closed : Bool

/-- The interval of the number `mantissa * 2 ^ exponent`. Below a power of two the neighbours are
closer together. -/
def intervalOf (format : BinaryFormat) (mantissa : Nat) (exponent : Int) : Interval :=
  let unit := 2 ^ (exponent - 2).toNat
  let tight := mantissa = 2 ^ (format.precision - 1) ∧ exponent > format.minExponent
  { low := (4 * mantissa - if tight then 1 else 2) * unit
    value := 4 * mantissa * unit
    high := (4 * mantissa + 2) * unit
    den := 2 ^ (2 - exponent).toNat
    closed := mantissa % 2 = 0 }

/-- Whether `num / den` rounds to the number. -/
def Interval.has (interval : Interval) (num den : Nat) : Bool :=
  let low := interval.low * den
  let high := interval.high * den
  let here := num * interval.den
  if interval.closed then low ≤ here && here ≤ high else low < here && here < high

/-- The place of the decimal point: the number lies between `10 ^ (p - 1)`, included, and
`10 ^ p`. The search starts at `guess`. -/
def pointOf (interval : Interval) (guess : Int) : (steps : Nat) → Int
  | 0 => guess
  | steps + 1 =>
    if interval.value * 10 ^ (-guess).toNat ≥ interval.den * 10 ^ guess.toNat then
      pointOf interval (guess + 1) steps
    else guess

/-- The digits of the nearer neighbour of the number among the decimals with `count` digits, if one
of the two rounds to the number. `tieUp` decides between neighbours at the same distance; otherwise
the even one is taken. -/
def digitsOf? (tieUp : Bool) (interval : Interval) (point : Int) (count : Nat) : Option Nat :=
  let exponent := point - count
  let up := 10 ^ exponent.toNat
  let down := 10 ^ (-exponent).toNat
  let digits := interval.value * down / (interval.den * up)
  let lowHit := interval.has (digits * up) down
  let highHit := interval.has ((digits + 1) * up) down
  let here := 2 * interval.value * down
  let middle := (2 * digits + 1) * up * interval.den
  if lowHit && highHit then
    if here < middle then some digits
    else if here > middle then some (digits + 1)
    else some (if tieUp || digits % 2 = 1 then digits + 1 else digits)
  else if lowHit then some digits
  else if highHit then some (digits + 1)
  else none

/-- The digits without zeros at their end. -/
def dropZeros (digits : Text) : Text :=
  digits.dropEndWhile (· = '0')

/-- The shortest decimal of the positive number `mantissa * 2 ^ exponent`: its digits, and how many
of them stand in front of the decimal point. -/
def decimal (tieUp : Bool) (format : BinaryFormat) (mantissa : Nat) (exponent : Int) :
    Text × Int :=
  let interval := intervalOf format mantissa exponent
  -- Three tenths is a little less than the decimal logarithm of two.
  let low := ((Nat.log2 mantissa : Int) + exponent) * 30102 / 100000 - 2
  let point := pointOf interval low 8
  let counts := (List.range 18).tail
  match counts.findSome? (digitsOf? tieUp interval point) with
  | some digits =>
    let written := Text.ofNat digits
    let count := (counts.find? fun n => (digitsOf? tieUp interval point n).isSome).getD 0
    (dropZeros written, point + (written.length - count : Int))
  | none => (['0'], 1)

end Signpost.Shortest
