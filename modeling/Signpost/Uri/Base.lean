import Signpost.Error
import Signpost.Uri.Basic

/-!
# The base of links

Every link is resolved against a base: a scheme and an authority, given together or not at all, and
a context path. The empty base makes links relative to the root of the server.

## Main definitions

* `BaseUri`: a base.
* `BaseUri.parse`: reading a base.
* `BaseUri.resolve`: a path behind a base.
-/

namespace Signpost

/-- What every link is resolved against. -/
structure BaseUri where
  /-- Scheme and authority. -/
  origin : Option (Text × Text) := none
  contextPath : Text := []
  deriving DecidableEq, Repr

namespace BaseUri

/-- The base of links relative to the root of the server. -/
def root : BaseUri := {}

/-- Reads a base. Query and fragment are ignored, slashes at the end dropped. -/
def parse (text : Text) : Except LinkError BaseUri :=
  let fault (reason : Text) := LinkError.invalidBase (text ++ ": ".toList ++ reason)
  match Uri.parse text with
  | .error error => .error (fault error.message)
  | .ok uri =>
    let contextPath := Text.dropEndWhile (· = '/') uri.path
    match uri.scheme, uri.authority with
    | some scheme, some authority => .ok ⟨some (scheme, authority), contextPath⟩
    | none, none => .ok ⟨none, contextPath⟩
    | _, _ => .error (fault "scheme and host must be given together".toList)

/-- The scheme. -/
def scheme (base : BaseUri) : Option Text :=
  base.origin.map (·.1)

/-- The authority. -/
def authority (base : BaseUri) : Option Text :=
  base.origin.map (·.2)

/-- Whether links against the base name a server. -/
def isAbsolute (base : BaseUri) : Bool :=
  base.origin.isSome

/-- The base as text. -/
def display (base : BaseUri) : Text :=
  (match base.origin with
    | some (scheme, authority) => scheme ++ "://".toList ++ authority
    | none => []) ++ base.contextPath

/-- Whether `path` can stand behind a base as it is. -/
def startsComponent : Text → Bool
  | [] => true
  | c :: _ => c = '/' || c = '?' || c = '#'

/-- The expanded mapping `path` behind the base. A slash is put in front of a path without one, and
in front of the whole link where the base names no server. -/
def resolve (base : BaseUri) (path : Text) : Text :=
  let link := base.display ++ (if startsComponent path then path else '/' :: path)
  if link = [] ∨ (!base.isAbsolute ∧ link.head? ≠ some '/') then '/' :: link else link

end BaseUri

end Signpost
