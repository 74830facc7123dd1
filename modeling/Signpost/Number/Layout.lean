import Signpost.Number.Shortest

/-!
# Layouts of floating-point numbers

How the shortest decimal of a number is written out. `plain` writes every number positionally and a
whole number without a point; `scientific` keeps a point in every number and turns to an exponent
outside the range where few zeros are needed.

## Main definitions

* `FloatLayout`: the decisions of a layout.
* `FloatLayout.plain`, `FloatLayout.scientific`: the two layouts in use.
* `FloatLayout.write`: a number as text.
-/

namespace Signpost

/-- The decisions of a layout. -/
structure FloatLayout where
  /-- The places of the decimal point, from the first to the last, that are written without an
  exponent; none if all are. -/
  positional : Option (Int × Int)
  /-- Whether a whole number shows a point and a zero. -/
  wholePoint : Bool
  /-- Whether of two decimals at the same distance the greater one is taken. -/
  tieUp : Bool

namespace FloatLayout

/-- No exponent, and no point in a whole number. -/
def plain : FloatLayout := ⟨none, false, true⟩

/-- A point in every positional number, and an exponent below `1e-5` and from `1e16` on. -/
def scientific : FloatLayout := ⟨some (-4, 16), true, false⟩

/-- Digits with the decimal point behind the first `point` of them. -/
def writePositional (wholePoint : Bool) (digits : Text) (point : Int) : Text :=
  if point ≤ 0 then '0' :: '.' :: List.replicate (-point).toNat '0' ++ digits
  else if digits.length ≤ point then
    digits ++ List.replicate (point - digits.length).toNat '0' ++
      if wholePoint then ['.', '0'] else []
  else digits.take point.toNat ++ '.' :: digits.drop point.toNat

/-- Digits with the decimal point behind the first of them, and an exponent with its sign. -/
def writeExponent (digits : Text) (point : Int) : Text :=
  digits.take 1 ++ (if digits.length > 1 then '.' :: digits.drop 1 else []) ++
    'e' :: (if point ≥ 1 then ['+'] else []) ++ Text.ofInt (point - 1)

/-- A number as text. -/
def write (layout : FloatLayout) (format : BinaryFormat) : Binary → Text
  | .nan => "NaN".toList
  | .infinite negative => if negative then "-inf".toList else "inf".toList
  | .finite negative mantissa exponent =>
    (if negative then ['-'] else []) ++
      if mantissa = 0 then
        if layout.wholePoint then "0.0".toList else "0".toList
      else
        let (digits, point) := Shortest.decimal layout.tieUp format mantissa exponent
        match layout.positional with
        | none => writePositional layout.wholePoint digits point
        | some (first, last) =>
          if first ≤ point ∧ point ≤ last then writePositional layout.wholePoint digits point
          else writeExponent digits point

end FloatLayout

end Signpost
