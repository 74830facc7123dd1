/-!
# Tables of characters

A property of characters is stored as a list of closed ranges of code points.
-/

namespace Signpost.Character

/-- A set of characters as a list of closed ranges of code points. -/
abbrev RangeTable := List (Nat × Nat)

/-- Whether `c` lies in one of the ranges. -/
def RangeTable.has (table : RangeTable) (c : Char) : Bool :=
  table.any fun range => range.1 ≤ c.toNat && c.toNat ≤ range.2

end Signpost.Character
