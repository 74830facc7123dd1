import Signpost.Character.CaseTable

/-!
# Letter case of single characters

A character has an upper-case and a lower-case form of one or more characters. ASCII is decided
without a look into the tables.

## Main definitions

* `upper`, `lower`: the two forms of a character.
* `asciiUpper`, `asciiLower`: the forms that leave everything but ASCII letters alone.
-/

namespace Signpost.Character

/-- The upper-case form of an ASCII letter; any other character is unchanged. -/
def asciiUpper (c : Char) : Char :=
  if 'a' ≤ c ∧ c ≤ 'z' then Char.ofNat (c.toNat - 32) else c

/-- The lower-case form of an ASCII letter; any other character is unchanged. -/
def asciiLower (c : Char) : Char :=
  if 'A' ≤ c ∧ c ≤ 'Z' then Char.ofNat (c.toNat + 32) else c

private def mapped (runs : List CaseRun) (expansions : List (Nat × List Nat)) (c : Char) :
    List Char :=
  match expansions.lookup c.toNat with
  | some form => form.map Char.ofNat
  | none =>
    match runs.findSome? (·.map? c.toNat) with
    | some n => [Char.ofNat n]
    | none => [c]

/-- The upper-case form of a character. -/
def upper (c : Char) : List Char :=
  if c.toNat < 128 then [asciiUpper c] else mapped upperRuns upperExpansions c

/-- The lower-case form of a character that stands alone. -/
def lower (c : Char) : List Char :=
  if c.toNat < 128 then [asciiLower c] else mapped lowerRuns lowerExpansions c

/-- Whether `c` is a letter with case. -/
def isCased (c : Char) : Bool :=
  casedTable.has c

/-- Whether `c` is passed over when the neighbours of a letter are looked for. -/
def isCaseIgnorable (c : Char) : Bool :=
  caseIgnorableTable.has c

end Signpost.Character
