import Signpost.Text.Case

/-!
# Binary floating point

Floating-point numbers as sign, mantissa and exponent, with exact arithmetic on natural numbers
behind every rounding. A finite number is `mantissa * 2 ^ exponent`; rounding goes to the nearest
number of a format, ties to the even mantissa.

## Main definitions

* `BinaryFormat`, `binary32`, `binary64`: precision and range.
* `Binary`: a floating-point number.
* `Binary.ofRatio`: the number nearest to a quotient.
* `Binary.ofDecimal`, `Binary.read?`: the number nearest to a decimal, and reading one.
* `Binary.mul`, `Binary.div`: product and quotient, rounded once.
* `Binary.bits64`, `Binary.hex64`: the sixty-four bits of a number.
-/

namespace Signpost

-- Powers are those of numbers, whatever other powers a module knows of.
attribute [local instance (high)] instPowNat

/-- Precision in bits and the range of the exponent of the last bit. -/
structure BinaryFormat where
  precision : Nat
  minExponent : Int
  maxExponent : Int

/-- Single precision. -/
def binary32 : BinaryFormat := ⟨24, -149, 104⟩

/-- Double precision. -/
def binary64 : BinaryFormat := ⟨53, -1074, 971⟩

/-- A floating-point number. -/
inductive Binary where
  | nan
  | infinite (negative : Bool)
  | finite (negative : Bool) (mantissa : Nat) (exponent : Int)
  deriving DecidableEq, Repr

namespace Binary

/-- The quotient rounded to the nearest integer, a tie to the even one. -/
def roundedQuotient (num den : Nat) : Nat :=
  let quotient := num / den
  let twice := 2 * (num % den)
  if twice > den ∨ (twice = den ∧ quotient % 2 = 1) then quotient + 1 else quotient

/-- The two sides of `num / (den * 2 ^ exponent)`, both natural numbers. -/
def scaled (num den : Nat) (exponent : Int) : Nat × Nat :=
  (num * 2 ^ (-exponent).toNat, den * 2 ^ exponent.toNat)

/-- The exponent of the last bit of `num / den` at full precision, within the range of the
format. -/
def exponentOf (format : BinaryFormat) (num den : Nat) : Int :=
  let guess := max ((Nat.log2 num : Int) - Nat.log2 den - format.precision) format.minExponent
  let (n, d) := scaled num den guess
  if n / d ≥ 2 ^ format.precision then guess + 1 else guess

/-- The number of the format nearest to `num / den`. -/
def ofRatio (format : BinaryFormat) (negative : Bool) (num den : Nat) : Binary :=
  if num = 0 ∨ den = 0 then finite negative 0 format.minExponent
  else
    let exponent := exponentOf format num den
    let (n, d) := scaled num den exponent
    let mantissa := roundedQuotient n d
    let (mantissa, exponent) :=
      if mantissa = 2 ^ format.precision then (2 ^ (format.precision - 1), exponent + 1)
      else (mantissa, exponent)
    if exponent > format.maxExponent then infinite negative
    else finite negative mantissa exponent

/-- The number of the format nearest to a natural number. -/
def ofNat (format : BinaryFormat) (n : Nat) : Binary :=
  ofRatio format false n 1

/-- The number with the other sign. -/
def neg : Binary → Binary
  | nan => nan
  | infinite negative => infinite !negative
  | finite negative mantissa exponent => finite (!negative) mantissa exponent

/-- Whether the number is infinite. -/
def isInfinite : Binary → Bool
  | infinite _ => true
  | _ => false

/-- Whether the number is a zero. -/
def isZero : Binary → Bool
  | finite _ mantissa _ => mantissa = 0
  | _ => false

/-- The magnitude of a finite number as a quotient. -/
def ratio (mantissa : Nat) (exponent : Int) : Nat × Nat :=
  (mantissa * 2 ^ exponent.toNat, 2 ^ (-exponent).toNat)

/-- The product of two finite numbers; any other number makes it not a number. -/
def mul (format : BinaryFormat) : Binary → Binary → Binary
  | finite s m e, finite s' m' e' =>
    let (n, d) := ratio m e
    let (n', d') := ratio m' e'
    ofRatio format (s != s') (n * n') (d * d')
  | _, _ => nan

/-- The quotient of two finite numbers, the second not zero; any other number makes it not a
number. -/
def div (format : BinaryFormat) : Binary → Binary → Binary
  | finite s m e, finite s' m' e' =>
    let (n, d) := ratio m e
    let (n', d') := ratio m' e'
    if n' = 0 then nan else ofRatio format (s != s') (n * d') (d * n')
  | _, _ => nan

/-- The number nearest to `digits * 10 ^ exponent`. Far outside the range of every format the powers
of ten are not worked out. -/
def ofDecimal (format : BinaryFormat) (negative : Bool) (digits : Nat) (exponent : Int) : Binary :=
  let point := exponent + (Text.ofNat digits).length
  if digits = 0 ∨ point < -400 then finite negative 0 format.minExponent
  else if point > 400 then infinite negative
  else ofRatio format negative (digits * 10 ^ exponent.toNat) (10 ^ (-exponent).toNat)

/-- The integer written by digits after an optional sign. -/
def readExponent? (text : Text) : Option Int :=
  match text with
  | '-' :: digits => (Text.toNat? digits).map fun n => -(n : Int)
  | '+' :: digits => (Text.toNat? digits).map fun n => (n : Int)
  | digits => (Text.toNat? digits).map fun n => (n : Int)

/-- Reads digits with an optional point among them and an optional exponent behind them. -/
def readDecimal? (format : BinaryFormat) (negative : Bool) (text : Text) : Option Binary := do
  let isMark (c : Char) : Bool := c = 'e' || c = 'E'
  let significand := text.takeWhile (!isMark ·)
  let exponent ←
    match text.dropWhile (!isMark ·) with
    | [] => some 0
    | _ :: written => readExponent? written
  let (whole, fraction) :=
    match Text.splitOnce? '.' significand with
    | some sides => sides
    | none => (significand, [])
  let digits ← Text.toNat? (whole ++ fraction)
  return ofDecimal format negative digits (exponent - fraction.length)

/-- Reads a floating-point number: a decimal, an infinity or not a number, after an optional
sign. -/
def read? (format : BinaryFormat) (text : Text) : Option Binary :=
  let (negative, body) :=
    match text with
    | '-' :: body => (true, body)
    | '+' :: body => (false, body)
    | body => (false, body)
  let name := Text.toAsciiLower body
  if name = "inf".toList ∨ name = "infinity".toList then some (infinite negative)
  else if name = "nan".toList then some nan
  else readDecimal? format negative body

/-- The bits of a number in double precision. -/
def bits64 : Binary → Nat
  | nan => 0x7ff8000000000000
  | infinite negative => (if negative then 2 ^ (63 : Nat) else 0) + 0x7ff0000000000000
  | finite negative mantissa exponent =>
    (if negative then 2 ^ (63 : Nat) else 0) +
      if mantissa < 2 ^ (52 : Nat) then mantissa
      else (exponent + 1075).toNat * 2 ^ (52 : Nat) + (mantissa - 2 ^ (52 : Nat))

/-- The bits of a number in double precision, as sixteen hexadecimal digits. -/
def hex64 (x : Binary) : Text :=
  Text.padLeft 16 (Nat.toDigits 16 x.bits64)

end Binary

end Signpost
