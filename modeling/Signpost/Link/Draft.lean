import Signpost.Affordance
import Signpost.Uri.Basic

/-!
# Links under construction

Binding a call gives a URI that can still be extended by path segments. It becomes a link once it
is given a relation.

## Main definitions

* `AffordingLink`, `AffordingLink.expand`: a link together with the operations it affords.
* `LinkDraft`: a link under construction.
* `LinkDraft.extend`: the URI extended by path segments.
* `LinkDraft.under`: the link under a relation.
-/

namespace Signpost

/-- A link together with the operations it affords. -/
structure AffordingLink extends Link where
  affordances : List Affordance := []
  deriving DecidableEq, Repr

namespace AffordingLink

/-- The link with its href, relation or variables changed. -/
def change (link : AffordingLink) (f : Link → Link) : AffordingLink :=
  { link with toLink := f link.toLink }

/-- The link with further operations. -/
def addAffordances (link : AffordingLink) (additional : List Affordance) : AffordingLink :=
  { link with affordances := link.affordances ++ additional }

/-- The link with values for its variables. It still affords the same operations. -/
def expand (link : AffordingLink) (lookup : Text → Option Text) :
    Except LinkError AffordingLink := do
  return { link with toLink := ← link.toLink.expand lookup }

end AffordingLink

/-- A link under construction: a URI, the optional variables left out of it and the operations it
affords. -/
structure LinkDraft where
  uri : Text
  vars : List Template.Variable := []
  affordances : List Affordance := []
  deriving DecidableEq, Repr

namespace LinkDraft

/-- Whether a path ends at `c`. -/
def endsPath (c : Char) : Bool :=
  c = '?' || c = '#'

/-- A URI with the non-empty segments of a text, each encoded, at the end of its path. -/
def appendSegments (uri segments : Text) : Text :=
  let appended := Template.segmentPath segments
  if appended = [] then uri
  else
    Text.dropEndWhile (· = '/') (uri.takeWhile (!endsPath ·)) ++ appended ++
      uri.dropWhile (!endsPath ·)

/-- The draft with the non-empty segments of a text at the end of its path. -/
def extend (draft : LinkDraft) (segments : Text) : LinkDraft :=
  { draft with uri := appendSegments draft.uri segments }

/-- The link under a relation. -/
def under (draft : LinkDraft) (rel : LinkRelation) : AffordingLink :=
  { toLink := ((Link.ofHref draft.uri).addVars draft.vars).under rel
    affordances := draft.affordances }

/-- The URI with values for its variables. -/
def expand (draft : LinkDraft) (lookup : Text → Option Text) : Except LinkError Text :=
  ((draft.under .self).toLink.expand lookup).map (·.href)

/-- The URI, read as one. -/
def readUri (draft : LinkDraft) : Except LinkError Uri :=
  match Uri.parse draft.uri with
  | .ok uri => .ok uri
  | .error error => .error (.invalidTemplate (draft.uri ++ ": ".toList ++ error.message))

end LinkDraft

end Signpost
