import Signpost.Text.Basic

/-!
# Mappings from fragments

The mapping of a method is the fragment declared on its handler followed by its own. The result is
cleaned up: no empty segments, no slash at the end, no constraints on variables.

## Main definitions

* `Mapping.clean`: a mapping without empty segments and constraints.
* `Mapping.ofFragments`: the mapping of a method from the two fragments.
-/

namespace Signpost.Mapping

/-- Where a clean-up stands in a mapping. -/
structure Cleaner where
  /-- The number of open braces. -/
  depth : Nat := 0
  /-- Whether a constraint is being left out. -/
  inConstraint : Bool := false
  /-- Whether the braces belong to a placeholder, whose colon starts a default. -/
  inPlaceholder : Bool := false
  /-- The last character kept. -/
  last : Option Char := none
  deriving DecidableEq, Repr

/-- What a clean-up keeps of one character, and where it stands afterwards. -/
def Cleaner.step (cleaner : Cleaner) (c : Char) : Cleaner × Bool :=
  let keep (next : Cleaner) : Cleaner × Bool := ({ next with last := some c }, true)
  if c = '{' then
    let next :=
      { cleaner with
        depth := cleaner.depth + 1
        inPlaceholder :=
          cleaner.inPlaceholder || (cleaner.depth = 0 && cleaner.last = some '$') }
    if cleaner.inConstraint then (next, false) else keep next
  else if c = '}' ∧ cleaner.depth > 0 then
    let next := { cleaner with depth := cleaner.depth - 1 }
    if next.depth = 0 then keep { next with inConstraint := false, inPlaceholder := false }
    else if cleaner.inConstraint then (next, false) else keep next
  else if c = ':' ∧ cleaner.depth = 1 ∧ !cleaner.inPlaceholder then
    ({ cleaner with inConstraint := true }, false)
  else if c = '/' ∧ cleaner.depth = 0 then
    if cleaner.last = some '/' then (cleaner, false) else keep cleaner
  else if cleaner.inConstraint then (cleaner, false)
  else keep cleaner

/-- What a clean-up that stands at `cleaner` keeps of the rest of a mapping. -/
def cleanFrom (cleaner : Cleaner) : Text → Text
  | [] => []
  | c :: rest =>
    let (next, kept) := cleaner.step c
    if kept then c :: cleanFrom next rest else cleanFrom next rest

/-- The mapping without slashes at its end; a lone slash stays. -/
def dropEndSlashes (mapping : Text) : Text :=
  match mapping with
  | [] => []
  | c :: rest => c :: Text.dropEndWhile (· = '/') rest

/-- The mapping without empty segments and without constraints of its variables. -/
def clean (mapping : Text) : Text :=
  dropEndSlashes (cleanFrom {} mapping)

/-- The mapping of a method from the fragment of its handler and its own. Without a fragment of its
own the fragment of the handler is taken as it is; a handler mapped to `/` adds nothing. -/
def ofFragments (ofHandler ofMethod : Option Text) : Option Text :=
  match ofMethod with
  | none | some [] => ofHandler
  | some fragment =>
    match ofHandler with
    | none => some (clean fragment)
    | some base =>
      some (clean (if base = ['/'] then fragment else base ++ '/' :: fragment))

end Signpost.Mapping
