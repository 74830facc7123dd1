import Signpost.Argument.Formatters
import Signpost.Error
import Signpost.Handler.Basic
import Signpost.Percent
import Signpost.Template.Variable

/-!
# Arguments in a query

An argument of a query parameter gives pairs of a name and a value. A parameter without a value is
left out if it is optional; otherwise its default takes the place of the value, or an expression
that a client fills in.

## Main definitions

* `QueryPair`, `QueryPair.render`: a pair, and its text.
* `QueryPair.ofArgument`: the pairs of an argument.
* `QueryPair.attach`: pairs behind a path.
-/

namespace Signpost

/-- A pair of a query. -/
inductive QueryPair where
  | value (name value : Text)
  /-- The values of a collection under one name, separated by commas. -/
  | joined (name : Text) (values : List Text)
  /-- A required parameter that is left to the client. -/
  | placeholder (name : Text)
  deriving DecidableEq, Repr

namespace QueryPair

/-- The text of a pair. -/
def render : QueryPair → Text
  | value name text => Percent.encode name ++ '=' :: Percent.encode text
  | joined name values =>
    Percent.encode name ++ '=' :: Text.join [','] (values.map Percent.encode)
  | placeholder name => Percent.encode name ++ '=' :: '{' :: name ++ ['}']

/-- The pairs of an entry of a map: one for every scalar in it. -/
def ofEntry (formatters : Formatters) (key : Text) : Argument → List QueryPair
  | .scalar scalar => [value key (formatters.format scalar)]
  | .collection items => items.map fun item => value key (formatters.format item)
  | .absent | .keyed _ | .body _ => []

/-- The pairs of a collection: one for every item, or a joined one for all. -/
def ofCollection (formatters : Formatters) (together : Bool) (name : Text) (items : List Scalar) :
    List QueryPair :=
  if items = [] then []
  else if together then [joined name (items.map formatters.format)]
  else items.map fun item => value name (formatters.format item)

/-- The pairs of a parameter without a value; none if it is left out. -/
def ofAbsent (parameter : Parameter) (name : Text) : Except LinkError (Option (List QueryPair)) :=
  if !parameter.isRequired then .ok none
  else
    match parameter.default with
    | some default => .ok (some [value name default])
    | none =>
      if isVariableName name then .ok (some [placeholder name])
      else .error (.unusableName name)

/-- The pairs of an argument; none if its parameter is left out. -/
def ofArgument (formatters : Formatters) (parameter : Parameter) (name : Text) :
    Argument → Except LinkError (Option (List QueryPair))
  | .scalar scalar => .ok (some [value name (formatters.format scalar)])
  | .collection items => .ok (some (ofCollection formatters parameter.joined name items))
  | .keyed entries =>
    .ok (some (entries.flatMap fun entry => ofEntry formatters entry.1 entry.2))
  | .body _ => .ok (some [])
  | .absent => ofAbsent parameter name

/-- Pairs behind a path, which may have a query already. -/
def attach (path : Text) (pairs : List QueryPair) : Text :=
  if pairs = [] then path
  else path ++ (if '?' ∈ path then '&' else '?') :: Text.join ['&'] (pairs.map render)

end QueryPair

end Signpost
