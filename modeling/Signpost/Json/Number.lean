import Signpost.Json.Value

/-!
# Numbers of JSON

Reading a number. An integer that fits into sixty-four bits stays an integer. Any other number is
made from as many leading digits as fit into sixty-four bits and a power of ten, which are rounded
one after the other; this can be one unit in the last place away from the nearest number.

## Main definitions

* `Json.ofParts?`: the floating-point number of a significand and a power of ten.
* `Json.readNumber?`: reads a number in front of a text.
-/

namespace Signpost.Json

-- Powers are those of numbers, whatever other powers a module knows of.
attribute [local instance (high)] instPowNat

/-- The greatest significand: the greatest natural number of sixty-four bits. -/
def maxSignificand : Nat := 2 ^ (64 : Nat) - 1

/-- The greatest exponent that is read as such. -/
def maxExponent : Nat := 2 ^ (31 : Nat) - 1

/-- The power of ten nearest to `10 ^ n`. -/
def powerOfTen (n : Nat) : Binary :=
  Binary.ofNat binary64 (10 ^ n)

/-- `x * 10 ^ exponent`, by one multiplication or by divisions through at most `10 ^ 308` each; none
if the number is too great. After `steps` divisions by `10 ^ 308` a number of sixty-four bits is
zero. -/
def scaleFrom? (x : Binary) (exponent : Int) : (steps : Nat) → Option Binary
  | 0 => some x
  | steps + 1 =>
    if exponent.natAbs ≤ 308 then
      let power := powerOfTen exponent.natAbs
      if exponent ≥ 0 then
        let product := Binary.mul binary64 x power
        if product.isInfinite then none else some product
      else some (Binary.div binary64 x power)
    else if x.isZero then some x
    else if exponent ≥ 0 then none
    else scaleFrom? (Binary.div binary64 x (powerOfTen 308)) (exponent + 308) steps

/-- The floating-point number of a significand and a power of ten. -/
def ofParts? (negative : Bool) (significand : Nat) (exponent : Int) : Option Binary :=
  (scaleFrom? (Binary.ofNat binary64 significand) exponent 8).map fun x =>
    if negative then x.neg else x

/-- Appends digits to a significand while it fits into sixty-four bits, and the digits left over. -/
def accumulate (significand : Nat) : Text → Nat × Text
  | [] => (significand, [])
  | c :: rest =>
    let next := 10 * significand + (c.toNat - '0'.toNat)
    if next > maxSignificand then (significand, c :: rest) else accumulate next rest

/-- The sign of an exponent, its digits and the rest of the text, if the text starts with an
exponent; none if its digits are missing. -/
def readExponent? (text : Text) : Option (Option (Bool × Text) × Text) :=
  match text with
  | [] => some (none, [])
  | c :: rest =>
    if c = 'e' ∨ c = 'E' then
      let (negative, body) :=
        match rest with
        | '+' :: body => (false, body)
        | '-' :: body => (true, body)
        | body => (false, body)
      let digits := body.takeWhile Character.isDigit
      if digits = [] then none else some (some (negative, digits), body.dropWhile Character.isDigit)
    else some (none, text)

/-- The digits behind a decimal point and the rest of the text, if the text starts with a point;
none if the digits are missing. -/
def readFraction? (text : Text) : Option (Option Text × Text) :=
  match text with
  | '.' :: rest =>
    let digits := rest.takeWhile Character.isDigit
    if digits = [] then none else some (some digits, rest.dropWhile Character.isDigit)
  | _ => some (none, text)

/-- The number with the given parts. -/
def numberOfParts? (negative : Bool) (whole : Text) (fraction : Option Text)
    (exponent : Option (Bool × Text)) : Option JsonNumber :=
  let (significand, dropped) := accumulate 0 whole
  if dropped = [] ∧ fraction = none ∧ exponent = none ∧
      !(negative && (significand = 0 || significand > 2 ^ (63 : Nat))) then
    some (.integer (if negative then -(significand : Int) else significand))
  else
    let (significand, left) := accumulate significand (fraction.getD [])
    let read := (fraction.getD []).length - left.length
    let start : Int := (dropped.length : Int) - read
    match exponent with
    | none => (ofParts? negative significand start).map .float
    | some (down, digits) =>
      let n := (Text.toNat? digits).getD 0
      if n > maxExponent then
        if significand ≠ 0 ∧ !down then none
        else (ofParts? negative 0 0).map .float
      else
        (ofParts? negative significand (if down then start - n else start + n)).map .float

/-- Reads a number in front of a text. -/
def readNumber? (text : Text) : Option (JsonNumber × Text) := do
  let (negative, body) :=
    match text with
    | '-' :: body => (true, body)
    | body => (false, body)
  let whole := body.takeWhile Character.isDigit
  guard (whole ≠ [] ∧ (whole.head? = some '0' → whole.length = 1))
  let (fraction, rest) ← readFraction? (body.dropWhile Character.isDigit)
  let (exponent, rest) ← readExponent? rest
  let number ← numberOfParts? negative whole fraction exponent
  return (number, rest)

end Signpost.Json
