import Signpost.Link.Relation
import Signpost.Template.Basic

/-!
# Links

A link is an href, which may hold template expressions, a relation, and the variables of its
template: those of the href followed by optional ones behind it. Its template and its printed form
show the href and, behind it, the variables that the href does not hold.

## Main definitions

* `Link`: a link.
* `Link.ofHref`, `Link.parse`: the `self` link to an href.
* `Link.template`, `Link.render`: the template of a link and its printed form.
* `Link.expand`: the link with values for its variables.
-/

namespace Signpost

/-- A link. -/
structure Link where
  href : Text
  rel : LinkRelation := .self
  vars : List Template.Variable := []
  deriving DecidableEq, Repr

namespace Link

/-- The `self` link to an href. An href that is no template is taken as it is. -/
def ofHref (href : Text) : Link :=
  match Template.parse href with
  | .ok template => { href, vars := template.vars }
  | .error _ => { href }

/-- The `self` link to an href that is a template. -/
def parse (href : Text) : Except LinkError Link :=
  match Template.parse href with
  | .ok template => .ok { href, vars := template.vars }
  | .error error => .error error.toLinkError

/-- The link under another relation. -/
def under (link : Link) (rel : LinkRelation) : Link :=
  { link with rel }

/-- The variables of a list and, behind them, those of `additional` with a new name. -/
def appendNew (present additional : List Template.Variable) : List Template.Variable :=
  additional.foldl (fun kept v => if kept.any (·.name = v.name) then kept else kept ++ [v]) present

/-- The link with further variables, except for those whose name it has. -/
def addVars (link : Link) (additional : List Template.Variable) : Link :=
  { link with vars := appendNew link.vars additional }

/-- The names of the variables. -/
def names (link : Link) : List Text :=
  link.vars.map (·.name)

/-- Whether the link has a variable. -/
def isTemplated (link : Link) : Bool :=
  !link.vars.isEmpty

/-- The variables that the href holds. -/
def embedded (link : Link) : List Template.Variable :=
  match Template.parse link.href with
  | .ok template => template.vars
  | .error _ => []

/-- The variables that the href does not hold. -/
def trailing (link : Link) : List Template.Variable :=
  Template.Variable.missingFrom link.embedded link.vars

/-- The template of the link. -/
def template (link : Link) : Except LinkError Template :=
  match Template.parse link.href with
  | .ok template => .ok (template.extend link.trailing)
  | .error error => .error error.toLinkError

/-- The link with values for its variables. It has no variables any more. -/
def expand (link : Link) (lookup : Text → Option Text) : Except LinkError Link := do
  let template ← link.template
  let href ← template.expand lookup
  return { link with href, vars := [] }

/-- The href followed by the expressions of the variables it does not hold. -/
def render (link : Link) : Text :=
  link.href ++ Template.Variable.render ('?' ∈ link.href) link.trailing

/-- The link as it stands in a header. -/
def display (link : Link) : Text :=
  '<' :: link.render ++ ">;rel=\"".toList ++ link.rel.value ++ ['"']

end Link

end Signpost
