import Signpost.Text.Basic

/-!
# Template variables

A template variable has a name, a kind that tells where its value goes, and a mark for values that
span several path segments. A list of variables is printed as template expressions, neighbours that
fit into one expression sharing it: `{?page,size}`.

## Main definitions

* `VariableKind`: where the value of a variable goes.
* `Template.Variable`: a variable.
* `Template.Variable.render`: a list of variables as template expressions.
* `isVariableName`: the names a template can hold.
-/

namespace Signpost

/-- Where the value of a template variable goes. -/
inductive VariableKind where
  /-- Into the path, in place: `{name}`. -/
  | path
  /-- Into the query, starting it: `{?name}`. -/
  | query
  /-- Into the query, continuing it: `{&name}`. -/
  | queryContinued
  /-- Into the path, as a segment: `{/name}`. -/
  | segment
  /-- Into the fragment: `{#name}`. -/
  | fragment
  deriving DecidableEq, Repr

namespace VariableKind

/-- The operator written in front of the names of an expression. -/
def operator : VariableKind → Text
  | path => []
  | query => ['?']
  | queryContinued => ['&']
  | segment => ['/']
  | fragment => ['#']

/-- The kind an operator stands for. -/
def ofOperator? : Text → Option VariableKind
  | [] => some path
  | ['?'] => some query
  | ['&'] => some queryContinued
  | ['/'] => some segment
  | ['#'] => some fragment
  | _ => none

/-- Whether an expansion may do without a value. -/
def isOptional (kind : VariableKind) : Bool :=
  kind ≠ path

/-- Whether the value goes into the query. -/
def isQuery : VariableKind → Bool
  | query | queryContinued => true
  | _ => false

/-- Whether variables of the two kinds can share one expression. -/
def combines (kind other : VariableKind) : Bool :=
  kind = other || (kind.isQuery && other.isQuery)

/-- The kind that stands first behind a URI: a query that is there already is continued. -/
def leading (hasQuery : Bool) : VariableKind → VariableKind
  | query => if hasQuery then queryContinued else query
  | kind => kind

@[simp] theorem ofOperator?_operator (kind : VariableKind) :
    ofOperator? kind.operator = some kind := by
  cases kind <;> rfl

end VariableKind

/-- A variable of a template. -/
structure Template.Variable where
  name : Text
  kind : VariableKind
  /-- Whether the value may span several path segments, written `{/name*}`. -/
  exploded : Bool := false
  deriving DecidableEq, Repr

namespace Template.Variable

/-- Whether an expansion fails without a value. -/
def isRequired (v : Template.Variable) : Bool :=
  !v.kind.isOptional

/-- The name as an expression shows it. -/
def label (v : Template.Variable) : Text :=
  if v.exploded then v.name ++ ['*'] else v.name

/-- The expression holding this variable alone. -/
def display (v : Template.Variable) : Text :=
  '{' :: v.kind.operator ++ v.label ++ ['}']

/-- The expressions for `vars` when an expression that ends with `previous` is still open. -/
def renderAfter (previous : Template.Variable) : List Template.Variable → Text
  | [] => ['}']
  | v :: rest =>
    (if previous.kind.combines v.kind then [',']
      else '}' :: '{' :: v.kind.operator) ++
      v.label ++ renderAfter v rest

/-- The expressions for a list of variables. With `hasQuery`, a leading query variable continues the
query instead of starting one. -/
def render (hasQuery : Bool) : List Template.Variable → Text
  | [] => []
  | v :: rest =>
    '{' :: (v.kind.leading hasQuery).operator ++ v.label ++ renderAfter v rest

/-- The variables of `additional` whose names are not among those of `present`. -/
def missingFrom (present additional : List Template.Variable) : List Template.Variable :=
  additional.filter fun candidate => !present.any (·.name = candidate.name)

end Template.Variable

/-- A letter, digit or one of `_`, `-`, `.` and `%`, all of ASCII. -/
def isNameChar (c : Char) : Bool :=
  Character.isAsciiAlphanumeric c || c = '_' || c = '-' || c = '.' || c = '%'

/-- Whether a template can hold a variable of this name. -/
def isVariableName (name : Text) : Bool :=
  name ≠ [] && name.all isNameChar

end Signpost
