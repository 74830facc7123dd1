import Signpost.Json.Value
import Signpost.Link.Draft

/-!
# Published forms

Links, their variables and the operations they afford as values of JSON, the way they are handed to
clients. A field that has nothing to say is left out.

## Main definitions

* `Link.toJson`: a link.
* `Template.Variable.toJson`: a variable.
* `Affordance.toJson`, `QueryParameter.toJson`: an operation and one of its query parameters.
-/

namespace Signpost

/-- The name of a kind of variable. -/
def VariableKind.name : VariableKind → Text
  | path => "path_variable".toList
  | query => "request_param".toList
  | queryContinued => "request_param_continued".toList
  | segment => "segment".toList
  | fragment => "fragment".toList

/-- A variable. -/
def Template.Variable.toJson (v : Template.Variable) : Json :=
  .ofEntries
    [("name", .text v.name), ("kind", .text v.kind.name), ("composite", .bool v.exploded)]

/-- A link. Only one with variables is marked as a template. -/
def Link.toJson (link : Link) : Json :=
  .ofEntries
    ([("rel", .text link.rel.value), ("href", .text link.render)] ++
      if link.isTemplated then [("templated", .bool true)] else [])

/-- A field that is left out if it has no value. -/
private def optionalField (name : String) (value? : Option Text) : List (String × Json) :=
  (value?.map fun value => (name, Json.text value)).toList

/-- A query parameter. -/
def QueryParameter.toJson (parameter : QueryParameter) : Json :=
  .ofEntries
    ([("name", .text parameter.name), ("required", .bool parameter.required)] ++
      optionalField "value" parameter.value)

/-- An operation. The link it belongs to is no part of it. -/
def Affordance.toJson (affordance : Affordance) : Json :=
  .ofEntries
    ([("name", .text affordance.name), ("http_method", .text affordance.verb.name),
      ("query_parameters", .list (affordance.query.map QueryParameter.toJson)),
      ("consumes", .list (affordance.consumes.map fun media => .text media.display))] ++
      optionalField "input" affordance.input ++ optionalField "output" affordance.output)

end Signpost
