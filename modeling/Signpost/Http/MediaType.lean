import Signpost.Table
import Signpost.Text.Case

/-!
# Media types

A media type has a type, a subtype and parameters sorted by name. Quality values are no part of it
and are dropped when it is read.

## Main definitions

* `MediaType`: a media type.
* `MediaType.parse?`, `MediaType.display`: reading and writing.
* `MediaType.accepts`: equality up to wildcards.
-/

namespace Signpost

/-- A media type with its parameters. -/
structure MediaType where
  type : Text
  subtype : Text
  params : Table Text := []
  deriving DecidableEq, Repr

namespace MediaType

/-- `application/json` -/
def json : MediaType where
  type := "application".toList
  subtype := "json".toList

/-- `application/x-www-form-urlencoded` -/
def form : MediaType where
  type := "application".toList
  subtype := "x-www-form-urlencoded".toList

/-- The media type with a further parameter. -/
def insertParam (media : MediaType) (name value : Text) : MediaType :=
  { media with params := media.params.insert name value }

/-- Adds a parameter as it is written behind a semicolon. Anything without an equals sign is passed
over, and so is a quality value. -/
def readParam (params : Table Text) (written : Text) : Table Text :=
  match Text.splitOnce? '=' written.trim with
  | none => params
  | some (name, value) =>
    let name := name.trim.toLower
    if name = ['q'] then params else params.insert name (value.trim.trimOf '"')

/-- Reads a media type. -/
def parse? (text : Text) : Option MediaType := do
  match Text.splitOn ';' text.trim with
  | [] => none
  | full :: params =>
    let (type, subtype) ← Text.splitOnce? '/' full.trim
    let type := type.trim.toLower
    let subtype := subtype.trim.toLower
    guard (type ≠ [] ∧ subtype ≠ [])
    return ⟨type, subtype, params.foldl readParam []⟩

/-- The media type as text. -/
def display (media : MediaType) : Text :=
  media.type ++ '/' :: media.subtype ++
    media.params.flatMap fun param => ';' :: param.1 ++ '=' :: param.2

/-- Whether two names agree or one of them is the wildcard. -/
private def agree (a b : Text) : Bool :=
  a = ['*'] || b = ['*'] || a = b

/-- Whether types and subtypes agree, wildcards agreeing with everything. -/
def accepts (media other : MediaType) : Bool :=
  agree media.type other.type && agree media.subtype other.subtype

end MediaType

end Signpost
