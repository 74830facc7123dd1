import Signpost.Number.Layout

/-!
# Kinds of scalars

Which texts denote a value of a kind, and the text such a value displays as: an integer in its
shortest form, a floating-point number as its shortest decimal, anything else as it was written.

## Main definitions

* `ScalarKind`, `ScalarKind.ofName?`: a kind, and the kind of a type.
* `ScalarKind.display?`: the text that a value displays as.
-/

namespace Signpost

-- Powers are those of numbers, whatever other powers a module knows of.
attribute [local instance (high)] instPowNat

/-- A kind of scalar. -/
inductive ScalarKind where
  /-- Integers between two bounds, both included. -/
  | integer (low high : Int)
  | float (format : BinaryFormat)
  | truth
  | character
  | text

namespace ScalarKind

/-- Integers of `bits` bits with a sign. -/
def signed (bits : Nat) : ScalarKind :=
  .integer (-2 ^ (bits - 1)) (2 ^ (bits - 1) - 1)

/-- Integers of `bits` bits without a sign. -/
def unsigned (bits : Nat) : ScalarKind :=
  .integer 0 (2 ^ bits - 1)

/-- The kind of scalars of a type given by its name: `i` or `u` and a number of bits for integers
with and without a sign, which have the width of an address if `size` stands there, `f` and a number
of bits, or a word. -/
def ofName? (name : Text) : Option ScalarKind :=
  let widths := ["8".toList, "16".toList, "32".toList, "64".toList, "128".toList, "size".toList]
  let bits? (width : Text) : Option Nat :=
    if width ∈ widths then some ((Text.toNat? width).getD 64) else none
  match name with
  | 'i' :: width => (bits? width).map signed
  | 'u' :: width => (bits? width).map unsigned
  | _ =>
    if name = "f32".toList then some (float binary32)
    else if name = "f64".toList then some (float binary64)
    else if name = "bool".toList then some truth
    else if name = "char".toList then some character
    else if name = "string".toList then some ScalarKind.text
    else none

/-- The integer between two bounds that a text denotes. A minus sign needs a negative bound. -/
def readInteger? (low high : Int) (text : Text) : Option Int := do
  let n ←
    match text with
    | '-' :: digits => if low < 0 then (Text.toNat? digits).map fun n => -(n : Int) else none
    | '+' :: digits => (Text.toNat? digits).map fun n => (n : Int)
    | digits => (Text.toNat? digits).map fun n => (n : Int)
  guard (low ≤ n ∧ n ≤ high)
  return n

/-- The text that the value denoted by `text` displays as. -/
def display? (kind : ScalarKind) (text : Text) : Option Text :=
  match kind with
  | integer low high => (readInteger? low high text).map Text.ofInt
  | float format => (Binary.read? format text).map (FloatLayout.plain.write format)
  | truth => if text = "true".toList ∨ text = "false".toList then some text else none
  | character => if text.length = 1 then some text else none
  | .text => some text

end ScalarKind

end Signpost
