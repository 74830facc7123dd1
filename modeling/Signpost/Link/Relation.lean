import Signpost.Text.Case

/-!
# Link relations

The relation of a link to the resource that carries it, such as `self` or `next`.
-/

namespace Signpost

/-- The relation of a link to the resource that carries it. -/
structure LinkRelation where
  value : Text
  deriving DecidableEq, Repr

namespace LinkRelation

/-- The relation of a resource to itself. -/
def self : LinkRelation := ⟨"self".toList⟩

/-- The relation to a resource that has to do with this one. -/
def related : LinkRelation := ⟨"related".toList⟩

/-- The registered relations this library knows. -/
def registered : List Text :=
  ["self".toList, "next".toList, "prev".toList, "first".toList, "last".toList,
    "collection".toList, "item".toList, "edit".toList, "related".toList]

/-- Whether the relation is a registered one, whatever the case of its letters. -/
def isRegistered (rel : LinkRelation) : Bool :=
  registered.contains (Text.toAsciiLower rel.value)

end LinkRelation

end Signpost
